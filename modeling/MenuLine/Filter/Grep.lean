import MenuLine.Pattern.Compile
import MenuLine.Stream.Program

/-!
# Filtering lines by a pattern

The filter keeps the lines that match its pattern, or those that do not. Each
line is written as soon as its newline has been read.
-/

namespace MenuLine

namespace Grep

structure Options where
  caseInsensitive : Bool
  invert : Bool
  pattern : Text
deriving DecidableEq, Repr

def caseFlag : Text := ['-', 'i']

def invertFlag : Text := ['-', 'v']

/-- A word that is no option is a pattern, in place of the one before. -/
def Options.add (options : Options) (arg : Text) : Options :=
  if arg = caseFlag then { options with caseInsensitive := true }
  else if arg = invertFlag then { options with invert := true }
  else { options with pattern := arg }

/-- The options may stand anywhere, and the last other word is the pattern. -/
def Options.ofArgs (args : List Text) : Options := args.foldl add ⟨false, false, []⟩

def newline : UInt8 := 10

def carriageReturn : UInt8 := 13

/-- The selected ones of some lines, each with a newline, up to the first line
that is not UTF-8. -/
def select (keep : Text → Bool) : List Bytes → List Bytes × Bool
  | [] => ([], true)
  | line :: lines =>
    match Text.ofBytes? line with
    | none => ([], false)
    | some text =>
      let (kept, valid) := select keep lines
      (if keep text then (line ++ [newline]) :: kept else kept, valid)

/-- Writes the selected lines and goes on, or fails at the one that is not
UTF-8. -/
def emit (keep : Text → Bool) (lines : List Bytes) (next : Burst σ Ending) : Burst σ Ending :=
  let (kept, valid) := select keep lines
  .emitAllOr .failed kept (if valid then next else .stop (.failed .notUtf8))

/-- Keeps the beginning of a line that is not complete yet. -/
def lineProgram (keep : Text → Bool) : Program where
  State := Bytes
  start := .ask []
  feed rest chunk :=
    let (lines, rest) := cutLines newline (rest ++ chunk)
    emit keep (lines.map (dropMark carriageReturn)) (.ask rest)
  finish rest := emit keep (if rest.isEmpty then [] else [rest]) (.stop .returned)

/-- What a pattern means, with case ignored or not: a test of lines, or the
reason why the pattern is refused. -/
abbrev Patterns := Bool → Text → Except Text (Text → Bool)

/-- Without words all input is copied. Why a pattern is refused is told in
place of the output. -/
def filterBy (patterns : Patterns) : Filter := fun args =>
  if args.isEmpty then .copy
  else
    let options := Options.ofArgs args
    match patterns options.caseInsensitive options.pattern with
    | .ok test => lineProgram fun line => test line != options.invert
    | .error reason =>
      let report := "error compiling regexp: ".toList ++ reason
      .immediate (.emitOr .failed (Text.bytes report) (.stop .returned))

def regularExpressions : Patterns := fun caseInsensitive pattern =>
  match Pattern.compile caseInsensitive pattern with
  | .ok e => .ok e.isMatch
  | .error refusal => .error (refusal.report pattern)

def filter : Filter := filterBy regularExpressions

end Grep

end MenuLine
