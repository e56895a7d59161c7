import Typeahead.Value.Print

namespace Typeahead

/-! Why an operation fails. A cause carries what its wording needs and nothing else. -/

inductive Fault where
  /-- A record or table has no entry of this name. -/
  | missing (key : Value)
  /-- A position outside a sequence, or a letter outside ASCII. -/
  | outOfRange
  /-- A value of a kind the operation does not take. -/
  | wrongKind (explanation : String)
  /-- Something was asked for a feature it does not have. -/
  | noFeature (explanation : String)
  /-- A value of the right kind that is not acceptable. -/
  | refused (explanation : String)
  /-- A text that is no numeral. -/
  | notNumeral (text : String)
  /-- A text that is not in the exchange format. -/
  | notReadable
  | failed (explanation : String)
  | notImplemented (explanation : String)
  /-- A descent through links that come back to where they started. -/
  | endless
  | noFile (path : String)
  | isFolder (path : String)
  | notFolder (path : String)
  | noModule (name : String)
  | unusableModule (explanation : String)
  /-- The process ends itself. -/
  | exits
  /-- A native operation was called with an argument it has no form for. -/
  | wrongArgument
  | timedOut
  | cancelled
  | clockStopped
  | server (explanation : String)
  | unknownConf (path : String)
  | noConf
  | noDiagnosticSupport
  | editor (explanation : String)
  | network (explanation : String)
  | scripted
  deriving Inhabited

namespace Fault

/-- The name a cause is reported under. -/
def name : Fault → String
  | .missing _ => "KeyError"
  | .outOfRange => "IndexError"
  | .wrongKind _ => "TypeError"
  | .noFeature _ => "AttributeError"
  | .refused _ => "ValueError"
  | .notNumeral _ => "ValueError"
  | .notReadable => "JSONDecodeError"
  | .failed _ => "RuntimeError"
  | .notImplemented _ => "NotImplementedError"
  | .endless => "RecursionError"
  | .noFile _ => "FileNotFoundError"
  | .isFolder _ => "IsADirectoryError"
  | .notFolder _ => "NotADirectoryError"
  | .noModule _ => "ModuleNotFoundError"
  | .unusableModule _ => "ImportError"
  | .exits => "SystemExit"
  | .wrongArgument => "ArgumentError"
  | .timedOut => "TimeoutError"
  | .cancelled => "CancelledError"
  | .clockStopped => "StopLoop"
  | .server _ => "ServerError"
  | .unknownConf _ => "UnknownExtraConf"
  | .noConf => "NoExtraConfDetected"
  | .noDiagnosticSupport => "NoDiagnosticSupport"
  | .editor _ => "VimError"
  | .network _ => "HTTPStatusError"
  | .scripted => "Exception"

def confirmConf (path : String) : String :=
  "Found " ++ path ++ ". Load? \n\n(Question can be turned off with options, see YCM docs)"

def noConfText : String :=
  "No .ycm_extra_conf.py file detected, so no compile flags are available. Thus no semantic support " ++
  "for C/C++/ObjC/ObjC++. Go READ THE DOCS *NOW*, DON'T file a bug report."

def noDiagnosticText : String :=
  "YCM has no diagnostics support for this filetype; refer to Syntastic docs if using Syntastic."

/-- The words of causes that are reported with words. -/
def message? : Fault → Option String
  | .refused text | .failed text | .notImplemented text | .unusableModule text | .server text | .editor text
  | .network text => some text
  | .timedOut => some ""
  | .unknownConf path => some (confirmConf path)
  | .noConf => some noConfText
  | .noDiagnosticSupport => some noDiagnosticText
  | _ => none

/-- The words in which a cause is shown to the user. -/
def text : Fault → String
  | .missing key => key.literal
  | .outOfRange => "list index out of range"
  | .wrongKind text | .noFeature text => text
  | .notNumeral text => "invalid literal for int() with base 10: " ++ Value.literalText text
  | .endless => "maximum recursion depth exceeded"
  | .noFile path => "[Errno 2] No such file or directory: " ++ Value.literalText path
  | .isFolder path => "[Errno 21] Is a directory: " ++ Value.literalText path
  | .notFolder path => "[Errno 20] Not a directory: " ++ Value.literalText path
  | .noModule name => "No module named " ++ Value.literalText name
  | fault => fault.message?.getD ""

/-- Whether the server reported it, rather than something on the way. -/
def isFromServer : Fault → Bool
  | .server _ | .unknownConf _ | .noConf | .noDiagnosticSupport => true
  | _ => false

end Fault

end Typeahead
