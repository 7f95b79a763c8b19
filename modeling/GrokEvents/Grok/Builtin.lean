/-
**The built-in patterns.**

Fragments of expressions by name. They capture nothing of their own: only a tagged token makes a
group. Composite fragments refer to others by tokens.

* `keys_builtin_nodup`: no name is given twice.
-/

import GrokEvents.Entries
import GrokEvents.Text.Basic

namespace GrokEvents.Grok.Builtin

/-- Addresses and host names. -/
def network : List (String × String) :=
  [("IPORHOST",
      "(?:[0-9]\x7b1,3\x7d\\.[0-9]\x7b1,3\x7d\\.[0-9]\x7b1,3\x7d\\.[0-9]\x7b1,3\x7d|" ++
      "[a-zA-Z0-9][-a-zA-Z0-9]*(?:\\.[a-zA-Z0-9][-a-zA-Z0-9]*)*)"),
   ("IP", "(?:[0-9]\x7b1,3\x7d\\.[0-9]\x7b1,3\x7d\\.[0-9]\x7b1,3\x7d\\.[0-9]\x7b1,3\x7d)"),
   ("IPV6", "(?:(?:[0-9A-Fa-f]\x7b1,4\x7d:)\x7b7\x7d[0-9A-Fa-f]\x7b1,4\x7d)"),
   ("IPV4", "(?:[0-9]\x7b1,3\x7d\\.[0-9]\x7b1,3\x7d\\.[0-9]\x7b1,3\x7d\\.[0-9]\x7b1,3\x7d)"),
   ("HOSTNAME",
      "\\b(?:[0-9A-Za-z][0-9A-Za-z-]\x7b0,62\x7d)(?:\\.(?:[0-9A-Za-z]" ++
      "[0-9A-Za-z-]\x7b0,62\x7d))*(?:\\.?|\\b)")]

/-- The date of a web server log. -/
def web : List (String × String) :=
  [("HTTPDATE",
      "[0-9]\x7b2\x7d/[A-Z][a-z]\x7b2\x7d/[0-9]\x7b4\x7d:[0-9]\x7b2\x7d:" ++
      "[0-9]\x7b2\x7d:[0-9]\x7b2\x7d [+-][0-9]\x7b4\x7d")]

/-- Numbers, words and stretches of text. -/
def basic : List (String × String) :=
  [("NUMBER", "(?:[+-]?(?:[0-9]+(?:\\.[0-9]+)?|\\.[0-9]+))"),
   ("INT", "(?:[+-]?[0-9]+)"),
   ("WORD", "\\b\\w+\\b"),
   ("DATA", ".*?"),
   ("GREEDYDATA", ".*"),
   ("SPACE", "\\s*"),
   ("NOTSPACE", "\\S+"),
   ("QS", "\"(?:[^\"\\\\]|\\\\.)*\""),
   ("QUOTEDSTRING", "\"(?:[^\"\\\\]|\\\\.)*\"")]

/-- Names of users. -/
def people : List (String × String) :=
  [("USER", "[a-zA-Z0-9._-]+"),
   ("USERNAME", "[a-zA-Z0-9._-]+")]

/-- Parts of dates and times. -/
def dates : List (String × String) :=
  [("MONTHNUM", "(?:0?[1-9]|1[0-2])"),
   ("MONTHDAY", "(?:(?:0[1-9])|(?:[12][0-9])|(?:3[01])|[1-9])"),
   ("YEAR", "(?:\\d\\d)\x7b1,2\x7d"),
   ("HOUR", "(?:2[0123]|[01]?[0-9])"),
   ("MINUTE", "(?:[0-5][0-9])"),
   ("SECOND", "(?:(?:[0-5]?[0-9]|60)(?:[:.,][0-9]+)?)")]

/-- Paths of files. -/
def paths : List (String × String) :=
  [("PATH", "(?:%\x7bUNIXPATH\x7d|%\x7bWINPATH\x7d)"),
   ("UNIXPATH", "(?:/[\\w_%!$@:.,-]*/?)(?:[\\w_%!$@:.,-]+)?"),
   ("WINPATH", "(?:[A-Za-z]+:|\\\\)(?:\\\\[^\\\\?*]*)+")]

/-- Lines of web server access logs, composed of the others. -/
def accessLogs : List (String × String) :=
  [("COMMONAPACHELOG",
      "%\x7bIPORHOST:client_ip\x7d %\x7bUSER:ident\x7d %\x7bUSER:auth\x7d " ++
      "\\[%\x7bHTTPDATE:timestamp\x7d\\] \"(?:%\x7bWORD:http_method\x7d " ++
      "%\x7bNOTSPACE:request\x7d(?: HTTP/%\x7bNUMBER:http_version\x7d)?|%\x7bDATA\x7d" ++
      ")\" %\x7bNUMBER:response_code\x7d (?:%\x7bNUMBER:bytes\x7d|-)"),
   ("COMBINEDAPACHELOG", "%\x7bCOMMONAPACHELOG\x7d %\x7bQS:referrer\x7d %\x7bQS:user_agent\x7d")]

/-- All built-in patterns, in order. -/
def entries : Entries Text Text :=
  (network ++ web ++ basic ++ people ++ dates ++ paths ++ accessLogs).map
    fun entry => (entry.1.toList, entry.2.toList)

/-- No name is given twice. -/
theorem keys_builtin_nodup : (Entries.keys entries).Nodup := by
  decide

end GrokEvents.Grok.Builtin
