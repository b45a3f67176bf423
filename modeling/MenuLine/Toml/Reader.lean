import MenuLine.Toml.Quoted

/-!
# Reading a settings file

A file is a list of lines: settings, headers, comments and blank lines. Each
line is read with what it may continue over, and added to the tables.
-/

namespace MenuLine

namespace Toml

def isBareKeyChar (c : Char) : Bool := c.isAlphanum || c == '_' || c == '-'

def readSimpleKey (t : Text) : Option (Text × Text) :=
  match t with
  | '"' :: r => readBasic (r.length + 1) r
  | '\'' :: r => readLiteral r
  | _ =>
    let name := t.takeWhile isBareKeyChar
    if name.isEmpty then none else some (name, t.drop name.length)

def maxDepth : Nat := 80

/-- A key with its parts between dots; `fuel` bounds their number. -/
def readKey : (fuel : Nat) → Text → Option (List Text × Text)
  | 0, _ => none
  | fuel + 1, t =>
    (readSimpleKey (dropBlanks t)).bind fun (name, r) =>
      match dropBlanks r with
      | '.' :: r => (readKey fuel r).map fun (names, r) => (name :: names, r)
      | r => some ([name], r)

/-- Past white space, newlines and comments. -/
def dropVoid (inComment : Bool) : Text → Text
  | [] => []
  | '\r' :: '\n' :: r => dropVoid false r
  | c :: r =>
    if c = '\n' then dropVoid false r
    else if inComment then if isPrintable c then dropVoid true r else c :: r
    else if c = ' ' || c = '\t' then dropVoid false r
    else if c = '#' then dropVoid true r
    else c :: r

def isBareValueChar (c : Char) : Bool :=
  !(c == ' ' || c == '\t' || c == '\n' || c == '\r' || c == ',' || c == ']' || c == '}' || c == '#')

/-- A value without quotes or brackets. A date may have a blank between it and
its time. -/
def readScalar (t : Text) : Option (Item × Text) :=
  let word := t.takeWhile isBareValueChar
  let rest := t.drop word.length
  let later := (rest.drop 1).takeWhile isBareValueChar
  if isDate word && rest.head? = some ' ' && isTimeWithOffset later then
    some (.time, rest.drop (later.length + 1))
  else (scalar? word).map fun item => (item, rest)

mutual

/-- A value that stands in `depth` others; `fuel` bounds the values in it. -/
def readValue : (fuel depth : Nat) → Text → Option (Item × Text)
  | 0, _, _ => none
  | fuel + 1, depth, t =>
    match t with
    | '"' :: _ | '\'' :: _ => (readString t).map fun (s, r) => (.text s, r)
    | '[' :: r =>
      if maxDepth ≤ depth + 1 then none
      else (readItems fuel (depth + 1) (dropVoid false r)).map fun (items, r) => (.array items, r)
    | '{' :: r =>
      if maxDepth ≤ depth + 1 then none
      else match dropBlanks r with
        | '}' :: r => some (.inlineTable [], r)
        | r => (readPairs fuel (depth + 1) [] r).map fun (entries, r) => (.inlineTable entries, r)
    | _ => readScalar t

/-- The values of an array; a comma may stand after the last one. -/
def readItems : (fuel depth : Nat) → Text → Option (List Item × Text)
  | 0, _, _ => none
  | fuel + 1, depth, t =>
    match t with
    | ']' :: r => some ([], r)
    | _ =>
      (readValue fuel depth t).bind fun (item, r) =>
        match dropVoid false r with
        | ',' :: r =>
          (readItems fuel depth (dropVoid false r)).map fun (items, r) => (item :: items, r)
        | ']' :: r => some ([item], r)
        | _ => none

/-- The settings of a table that is written on one line. -/
def readPairs : (fuel depth : Nat) → Entries → Text → Option (Entries × Text)
  | 0, _, _, _ => none
  | fuel + 1, depth, entries, t =>
    (readKey fuel t).bind fun (names, r) =>
      match r, names.getLast? with
      | '=' :: r, some key =>
        if maxDepth ≤ names.length then none
        else (readValue fuel depth (dropBlanks r)).bind fun (item, r) =>
          (entries.insertKey names.dropLast key item).bind fun entries =>
            match dropBlanks r with
            | ',' :: r => readPairs fuel depth entries r
            | '}' :: r => some (entries, r)
            | _ => none
      | _, _ => none

end

/-- The end of a line: blanks, perhaps a comment, and a newline or the end. -/
def lineEnd (t : Text) : Option Text :=
  let rest := match dropBlanks t with
    | '#' :: r => r.dropWhile isPrintable
    | r => r
  if rest.isEmpty then some [] else newline? rest

/-- The tables so far and the header that holds. -/
structure Reading where
  root : Entries
  current : List Text

def readHeader (s : Reading) (t : Text) : Option (Reading × Text) :=
  let (several, t) := match t with
    | '[' :: r => (true, r)
    | r => (false, r)
  (readKey (t.length + 1) t).bind fun (names, r) =>
    let after := if several then
        match r with
        | ']' :: ']' :: r => some r
        | _ => none
      else match r with
        | ']' :: r => some r
        | _ => none
    match after, names.getLast? with
    | some r, some key =>
      if maxDepth ≤ names.length then none
      else
        let opened := if several then s.root.openNext names.dropLast key
          else s.root.openTable names.dropLast key
        opened.bind fun root => (lineEnd r).map fun r => (⟨root, names⟩, r)
    | _, _ => none

def readSetting (s : Reading) (t : Text) : Option (Reading × Text) :=
  (readKey (t.length + 1) t).bind fun (names, r) =>
    match r, names.getLast? with
    | '=' :: r, some key =>
      if maxDepth ≤ names.length then none
      else (readValue (r.length + 1) 0 (dropBlanks r)).bind fun (item, r) =>
        (s.root.insertAt s.current names.dropLast key item).bind fun root =>
          (lineEnd r).map fun r => (⟨root, s.current⟩, r)
    | _, _ => none

def readLine (s : Reading) (t : Text) : Option (Reading × Text) :=
  match dropBlanks t with
  | [] => some (s, [])
  | '#' :: r => (lineEnd ('#' :: r)).map fun r => (s, r)
  | '[' :: r => readHeader s r
  | c :: r =>
    match newline? (c :: r) with
    | some r => some (s, r)
    | none => readSetting s (c :: r)

/-- Reads line after line; each takes a character at least. -/
def readLines : (fuel : Nat) → Reading → Text → Option Entries
  | 0, _, _ => none
  | fuel + 1, s, t =>
    if t.isEmpty then some s.root else (readLine s t).bind fun (s, r) => readLines fuel s r

/-- The tables of a file, which may begin with a byte order mark. -/
def read (file : Text) : Option Entries :=
  let t := if file.head? = some '\ufeff' then file.drop 1 else file
  readLines (t.length + 1) ⟨[], []⟩ t

end Toml

end MenuLine
