import Gridcalc.Libraries.Log.Pattern.Check

/-! # Log filters

How much is logged is set by a filter: directives between commas, and behind a slash a
pattern for the messages. A directive is a level, a target, or a target with a level
behind an equals sign, where no level at all stands for the most detailed one.

A part of a filter that does not read is left out, and a warning says so. -/

namespace Gridcalc.Log

/-- Why a filter, or a part of it, is left out. -/
inductive FilterFault where
  /-- There is more than one slash. -/
  | tooManySlashes (filter : String)
  /-- A level that there is not, or a directive with more than one equals sign. -/
  | unreadable (text : String)
  | badPattern (pattern : String) (refusal : Pattern.Refusal)
deriving DecidableEq

/-- The warning about a part that is left out. -/
def FilterFault.warning (fault : FilterFault) : String :=
  let message := match fault with
    | tooManySlashes filter => "invalid logging spec '" ++ filter ++ "' (too many '/'s)"
    | unreadable text => "invalid logging spec '" ++ text ++ "'"
    | badPattern pattern refusal => "invalid regex filter - " ++ refusal.message pattern
  "warning: " ++ message ++ ", ignoring it"

/-- The levels, the most detailed one last. -/
def levels : List String := ["off", "error", "warn", "info", "debug", "trace"]

/-- Whether a word is a level, in any case. -/
def isLevel (word : String) : Bool :=
  levels.contains (String.ofList (word.toList.map Char.toLower))

/-- Why a directive is left out, if it is. A word on its own is a level or a target. -/
def directiveFault? (directive : String) : Option FilterFault :=
  match Text.fields '=' directive with
  | [_] => none
  | [_, level] =>
    let level := Text.trim level
    if level.isEmpty || isLevel level then none else some (.unreadable level)
  | _ => some (.unreadable directive)

/-- Why a pattern is left out, if it is. -/
def patternFault? (pattern : String) : Option FilterFault :=
  (Pattern.refusal? pattern).map (.badPattern pattern)

/-- The faults of a filter, in the order of its parts. -/
def filterFaults (filter : String) : List FilterFault :=
  match Text.fields '/' filter with
  | [] => []
  | directives :: patterns =>
    if 1 < patterns.length then [.tooManySlashes filter]
    else
      ((Text.fields ',' directives).map Text.trim).filterMap directiveFault? ++
        patterns.filterMap patternFault?

end Gridcalc.Log
