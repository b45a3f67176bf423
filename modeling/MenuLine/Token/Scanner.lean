import MenuLine.Token.Basic
import MenuLine.Unicode.Alphanumeric

/-!
# Scanning

A scanner hands out one token at a time. `Scanner.pull` gives the next
token, the error that ends the line, or nothing at the end, together with
the scanner to go on with. Every token takes at least one character off the
rest, so `Scanner.drain` may pull until nothing comes.
-/

namespace MenuLine

/-- What the scanner looks for next. -/
inductive Phase where
  | command
  /-- After a pipe, where the name of a filter stands. -/
  | filterName
  /-- After a redirect, where the name of a file stands. -/
  | filename
  /-- After a placeholder, in front of its colon. -/
  | completionType
  | done
deriving DecidableEq, Repr

structure Scanner where
  rest : Text
  phase : Phase
deriving DecidableEq, Repr

namespace Scanner

def start (line : Text) : Scanner := ⟨line, .command⟩

abbrev Pull := Option (Except ScanError Token) × Scanner

def token (kind : TokenKind) (text rest : Text) (phase : Phase) : Pull :=
  (some (.ok ⟨kind, text⟩), ⟨rest, phase⟩)

def failed (e : ScanError) (rest : Text) : Pull := (some (.error e), ⟨rest, .done⟩)

def ended : Pull := (none, ⟨[], .done⟩)

def isNameChar (c : Char) : Bool := Unicode.isAlphanumeric c || c == '_'

/-- Divides a text after the first `quote` that no backslash stands before.
A backslash takes any character with it; a bare line end is refused. -/
def splitQuote (quote : Char) : Text → Option (Text × Text)
  | [] => none
  | '\\' :: c :: r => (splitQuote quote r).map fun p => ('\\' :: c :: p.1, p.2)
  | c :: r =>
    if c = quote then some ([c], r)
    else if c = '\\' || isLineEnd c then none
    else (splitQuote quote r).map fun p => (c :: p.1, p.2)

theorem splitQuote_slash (quote c : Char) (r : Text) :
    splitQuote quote ('\\' :: c :: r) =
      (splitQuote quote r).map fun p => ('\\' :: c :: p.1, p.2) := by
  rw [splitQuote]

theorem splitQuote_cons {quote c : Char} (hc : c ≠ '\\') (r : Text) :
    splitQuote quote (c :: r) =
      if c = quote then some ([c], r)
      else if isLineEnd c then none
      else (splitQuote quote r).map fun p => (c :: p.1, p.2) := by
  rw [splitQuote]
  · simp [hc]
  · intro d u hd
    exact absurd hd hc

/-- Induction along a text up to its closing quote: that quote, a backslash with
the character behind it, or any other character. -/
theorem splitQuote_induction {quote : Char} {rest : Text} {motive : Text → Text → Prop}
    (close : motive (quote :: rest) [quote])
    (escaped : ∀ c t body, motive t body → motive ('\\' :: c :: t) ('\\' :: c :: body))
    (plain : ∀ c t body, c ≠ quote → c ≠ '\\' → isLineEnd c = false → motive t body →
      motive (c :: t) (c :: body))
    {t body : Text} (h : splitQuote quote t = some (body, rest)) : motive t body := by
  fun_induction splitQuote quote t generalizing body with
  | case1 => cases h
  | case2 c t ih =>
    obtain ⟨p, hp, he⟩ := Option.map_eq_some_iff.1 h
    cases he
    exact escaped c t p.1 (ih hp)
  | case3 t _ =>
    cases h
    exact close
  | case4 => cases h
  | case5 c t _ hne hend ih =>
    obtain ⟨p, hp, he⟩ := Option.map_eq_some_iff.1 h
    cases he
    simp only [Bool.or_eq_true, decide_eq_true_eq, not_or, Bool.not_eq_true] at hend
    exact plain c t p.1 hne hend.1 hend.2 (ih hp)

theorem append_of_splitQuote {quote : Char} {t body rest : Text}
    (h : splitQuote quote t = some (body, rest)) : t = body ++ rest := by
  refine splitQuote_induction (motive := fun t body => t = body ++ rest) rfl ?_ ?_ h
  · rintro c t body rfl
    rfl
  · rintro c t body - - - rfl
    rfl

theorem body_ne_nil_of_splitQuote {quote : Char} {t body rest : Text}
    (h : splitQuote quote t = some (body, rest)) : body ≠ [] :=
  splitQuote_induction (motive := fun _ body => body ≠ []) (by simp) (by simp) (by simp) h

/-- What stands behind the closing quote makes no difference. -/
theorem splitQuote_body {quote : Char} (hquote : quote ≠ '\\') {t body rest : Text}
    (h : splitQuote quote t = some (body, rest)) (u : Text) :
    splitQuote quote (body ++ u) = some (body, u) := by
  refine splitQuote_induction
    (motive := fun _ body => splitQuote quote (body ++ u) = some (body, u)) ?_ ?_ ?_ h
  · rw [List.singleton_append, splitQuote_cons hquote, if_pos rfl]
  · intro c t body ih
    rw [List.cons_append, List.cons_append, splitQuote_slash, ih]
    rfl
  · intro c t body hne hslash hend ih
    rw [List.cons_append, splitQuote_cons hslash, if_neg hne, if_neg (by simp [hend]), ih]
    rfl

/-- The word that begins with `first`. -/
def pullWord (mode : Mode) (first : Char) (rest : Text) : Pull :=
  token .word (first :: rest.takeWhile (isWordChar mode)) (rest.dropWhile (isWordChar mode))
    .command

def pullQuoted (quote : Char) (rest : Text) : Pull :=
  match splitQuote quote rest with
  | none => failed .unterminatedString rest
  | some (body, rest) => token .quoted (quote :: body) rest .command

/-- A placeholder is glued to the name of its completer by a colon. -/
def phaseAfterPlaceholder : Text → Phase
  | ':' :: _ => .completionType
  | _ => .command

/-- What follows a `$` in a description. -/
def pullPlaceholder : Text → Pull
  | [] => failed .unterminatedPlaceholder []
  | '*' :: rest => token .placeholder ['*'] rest (phaseAfterPlaceholder rest)
  | c :: rest =>
    if c.isDigit then
      let after := rest.dropWhile Char.isDigit
      token .placeholder (c :: rest.takeWhile Char.isDigit) after (phaseAfterPlaceholder after)
    else failed (.invalidPlaceholderChar c) (c :: rest)

def pullCommand (mode : Mode) (rest : Text) : Pull :=
  match rest.dropWhile isBlank with
  | [] => ended
  | c :: r =>
    if isQuote c then pullQuoted c r
    else if c = ';' then token .separator [';'] r .command
    else if c = '|' then token .pipe ['|'] r .filterName
    else if c = '>' then token .redirect ['>'] r .filename
    else if c = '$' && mode = .description then pullPlaceholder r
    else if c = '\\' && (r.head?.map isLineEnd).getD false then
      token .continuation [] (r.dropWhile isLineEnd) .command
    else if isLineEnd c then token .separator [c] r .command
    else pullWord mode c r

def pullFilterName (mode : Mode) (rest : Text) : Pull :=
  match rest.dropWhile isBlank with
  | [] => ended
  | c :: r =>
    if isWordChar mode c then pullWord mode c r
    else if c = '|' then token .pipe ['|'] r .filterName
    else if c = ';' then token .separator [';'] r .command
    else failed (.unexpectedFilterChar c) (c :: r)

/-- A blank right after the name belongs to it. A missing name is left to
the reader of the tokens, which finds some other token in its place. -/
def pullFilename (mode : Mode) (rest : Text) : Pull :=
  let rest := rest.dropWhile isBlank
  let name := rest.takeWhile (isWordChar mode)
  match rest.dropWhile (isWordChar mode) with
  | [] => if name = [] then ended else token .filename name [] .command
  | c :: r =>
    if isBlank c then token .filename name r .command
    else if c = ';' || isLineEnd c then
      if name = [] then pullCommand mode (c :: r) else token .filename name (c :: r) .command
    else failed (.unexpectedFilenameChar c) (c :: r)

/-- The colon and the name after it, which may be empty. -/
def pullCompletionType (rest : Text) : Pull :=
  let rest := rest.drop 1
  token .completionType (rest.takeWhile isNameChar) (rest.dropWhile isNameChar) .command

def pull (mode : Mode) (s : Scanner) : Pull :=
  match s.phase with
  | .command => pullCommand mode s.rest
  | .filterName => pullFilterName mode s.rest
  | .filename => pullFilename mode s.rest
  | .completionType => pullCompletionType s.rest
  | .done => (none, s)

/-- Bounds the number of tokens to come: each takes a character, and the
empty name of a completer is announced by a colon. -/
def size (s : Scanner) : Nat := s.rest.length + if s.phase = .completionType then 1 else 0

/-- A pull either hands out no token or leaves less than `bound`. -/
def Shortens (bound : Nat) (p : Pull) : Prop := ∀ t, p.1 = some (.ok t) → p.2.size < bound

theorem shortens_failed {bound : Nat} (e : ScanError) (rest : Text) :
    Shortens bound (failed e rest) := by
  simp [Shortens, failed]

theorem shortens_ended {bound : Nat} : Shortens bound ended := by simp [Shortens, ended]

theorem shortens_token {bound : Nat} {kind : TokenKind} {text rest : Text} {phase : Phase}
    (h : (Scanner.mk rest phase).size < bound) : Shortens bound (token kind text rest phase) :=
  fun _ _ => h

theorem Shortens.mono {b c : Nat} {p : Pull} (h : Shortens b p) (hbc : b ≤ c) : Shortens c p :=
  fun t ht => Nat.lt_of_lt_of_le (h t ht) hbc

theorem size_command (rest : Text) : (Scanner.mk rest .command).size = rest.length := by
  simp [size]

theorem length_dropWhile_le (p : α → Bool) (xs : List α) :
    (xs.dropWhile p).length ≤ xs.length :=
  (List.dropWhile_suffix p).length_le

theorem length_splitQuote {quote : Char} {t body rest : Text}
    (h : splitQuote quote t = some (body, rest)) : rest.length < t.length := by
  have hpos : 0 < body.length := List.length_pos_iff.2 (body_ne_nil_of_splitQuote h)
  rw [append_of_splitQuote h, List.length_append]
  omega

theorem shortens_pullWord (mode : Mode) (first : Char) (rest : Text) :
    Shortens (rest.length + 1) (pullWord mode first rest) := by
  refine shortens_token ?_
  rw [size_command]
  exact Nat.lt_succ_of_le (length_dropWhile_le _ _)

theorem shortens_pullQuoted (quote : Char) (rest : Text) :
    Shortens (rest.length + 1) (pullQuoted quote rest) := by
  unfold pullQuoted
  split
  · exact shortens_failed _ _
  · next h =>
    refine shortens_token ?_
    rw [size_command]
    have := length_splitQuote h
    omega

theorem size_le (rest : Text) (phase : Phase) : (Scanner.mk rest phase).size ≤ rest.length + 1 := by
  unfold size
  split <;> simp

theorem shortens_pullPlaceholder (rest : Text) :
    Shortens (rest.length + 1) (pullPlaceholder rest) := by
  fun_cases pullPlaceholder rest with
  | case1 => exact shortens_failed _ _
  | case2 rest =>
    refine shortens_token (Nat.lt_of_le_of_lt (size_le _ _) ?_)
    simp
  | case3 c rest hc hd after =>
    refine shortens_token (Nat.lt_of_le_of_lt (size_le _ _) ?_)
    have := length_dropWhile_le Char.isDigit rest
    simp only [List.length_cons, after]
    omega
  | case4 => exact shortens_failed _ _

theorem shortens_pullCommand (mode : Mode) (rest : Text) :
    Shortens rest.length (pullCommand mode rest) := by
  have hle := length_dropWhile_le isBlank rest
  unfold pullCommand
  split
  · exact shortens_ended
  · next c r h =>
    rw [h, List.length_cons] at hle
    have small : ∀ (kind : TokenKind) (text after : Text) (phase : Phase),
        phase ≠ .completionType → after.length ≤ r.length →
          Shortens rest.length (token kind text after phase) := by
      intro kind text after phase hp ha
      refine shortens_token ?_
      simp only [size, hp, if_false]
      omega
    repeat' split
    · exact (shortens_pullQuoted c r).mono hle
    · exact small _ _ _ _ (by decide) (Nat.le_refl _)
    · exact small _ _ _ _ (by decide) (Nat.le_refl _)
    · exact small _ _ _ _ (by decide) (Nat.le_refl _)
    · exact (shortens_pullPlaceholder r).mono hle
    · exact small _ _ _ _ (by decide) (length_dropWhile_le _ _)
    · exact small _ _ _ _ (by decide) (Nat.le_refl _)
    · exact (shortens_pullWord mode c r).mono hle

theorem shortens_pullFilterName (mode : Mode) (rest : Text) :
    Shortens rest.length (pullFilterName mode rest) := by
  have hle := length_dropWhile_le isBlank rest
  unfold pullFilterName
  split
  · exact shortens_ended
  · next c r h =>
    rw [h, List.length_cons] at hle
    repeat' split
    · exact (shortens_pullWord mode c r).mono hle
    · exact shortens_token (by simp [size]; omega)
    · exact shortens_token (by simp [size]; omega)
    · exact shortens_failed _ _

theorem shortens_pullFilename (mode : Mode) (rest : Text) :
    Shortens rest.length (pullFilename mode rest) := by
  have hle := length_dropWhile_le isBlank rest
  have hsplit : ((rest.dropWhile isBlank).takeWhile (isWordChar mode)).length +
      ((rest.dropWhile isBlank).dropWhile (isWordChar mode)).length =
        (rest.dropWhile isBlank).length := by
    rw [← List.length_append, List.takeWhile_append_dropWhile]
  unfold pullFilename
  dsimp only
  split
  · next h =>
    split
    · exact shortens_ended
    · next hn =>
      refine shortens_token ?_
      have := List.length_pos_iff.2 hn
      simp only [size_command, List.length_nil]
      omega
  · next c r h =>
    rw [h, List.length_cons] at hsplit
    split
    · exact shortens_token (by rw [size_command]; omega)
    · split
      · split
        · exact (shortens_pullCommand mode (c :: r)).mono (by simp only [List.length_cons]; omega)
        · next hn =>
          have := List.length_pos_iff.2 hn
          exact shortens_token (by rw [size_command, List.length_cons]; omega)
      · exact shortens_failed _ _

theorem shortens_pull (mode : Mode) (s : Scanner) : Shortens s.size (pull mode s) := by
  obtain ⟨rest, phase⟩ := s
  cases phase with
  | command => simpa [pull, size] using shortens_pullCommand mode rest
  | filterName => simpa [pull, size] using shortens_pullFilterName mode rest
  | filename => simpa [pull, size] using shortens_pullFilename mode rest
  | completionType =>
    refine shortens_token ?_
    have := length_dropWhile_le isNameChar (rest.drop 1)
    simp only [size, List.length_drop, if_true] at *
    simp only [reduceCtorEq, if_false]
    omega
  | done => simp [Shortens, pull]

/-- Pulls until no token comes: the tokens, the error if one ended the line,
and the scanner that is left. -/
def drain (mode : Mode) (s : Scanner) : List Token × Option ScanError × Scanner :=
  match _h : pull mode s with
  | (none, after) => ([], none, after)
  | (some (.error e), after) => ([], some e, after)
  | (some (.ok t), after) =>
    let (tokens, rest) := drain mode after
    (t :: tokens, rest)
termination_by s.size
decreasing_by
  have := shortens_pull mode s t (by rw [_h])
  rwa [_h] at this

theorem drain_of_token {mode : Mode} {s after : Scanner} {t : Token}
    (h : pull mode s = (some (.ok t), after)) :
    drain mode s = (t :: (drain mode after).1, (drain mode after).2) := by
  rw [drain]
  split <;> simp_all

theorem drain_of_failed {mode : Mode} {s after : Scanner} {e : ScanError}
    (h : pull mode s = (some (.error e), after)) : drain mode s = ([], some e, after) := by
  rw [drain]
  split <;> simp_all

theorem drain_of_ended {mode : Mode} {s after : Scanner} (h : pull mode s = (none, after)) :
    drain mode s = ([], none, after) := by
  rw [drain]
  split <;> simp_all

theorem drain_of_pull_eq {mode : Mode} {s s' : Scanner} (h : pull mode s = pull mode s') :
    drain mode s = drain mode s' := by
  rcases hpull : pull mode s' with ⟨_ | ⟨e | t⟩, after⟩
  · rw [drain_of_ended hpull, drain_of_ended (h.trans hpull)]
  · rw [drain_of_failed hpull, drain_of_failed (h.trans hpull)]
  · rw [drain_of_token hpull, drain_of_token (h.trans hpull)]

end Scanner

/-- The tokens of a line and the error that ended it, if one did. -/
def scan (mode : Mode) (line : Text) : List Token × Option ScanError :=
  let (tokens, failure, _) := (Scanner.start line).drain mode
  (tokens, failure)

end MenuLine
