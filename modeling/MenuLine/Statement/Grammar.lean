import MenuLine.Statement.Parser

/-!
# The grammar of a line

The grammar of user input, stated on tokens and without reference to how they
are read. With `W` for a word or a quoted text, `LC` for a continuation and
`SEP` for a separator it is

    line      = LC* [statement (SEP LC* statement)* [SEP LC*]]
    statement = W (W | LC)* (PIPE word (W | LC)*)* [REDIR filename]

and each relation below gives the tokens of one part of it together with what
they mean.
-/

namespace MenuLine

/-- The word that a token stands for. -/
def Token.word? (t : Token) : Option Text :=
  match t.kind with
  | .word => some t.text
  | .quoted => some (Quoted.unquote t.text)
  | _ => none

namespace Grammar

/-- `LC*` -/
def Continuations (ts : List Token) : Prop := ∀ t ∈ ts, t.kind = .continuation

/-- `(W | LC)*` -/
inductive Words : List Token → List Text → Prop where
  | nil : Words [] []
  | word {t ts w ws} (h : t.word? = some w) (hwords : Words ts ws) : Words (t :: ts) (w :: ws)
  | continuation {t ts ws} (h : t.kind = .continuation) (hwords : Words ts ws) : Words (t :: ts) ws

/-- `(PIPE word (W | LC)*)*` -/
inductive Filters : List Token → List FilterCall → Prop where
  | nil : Filters [] []
  | cons {pipe name ts args us calls} (hpipe : pipe.kind = .pipe) (hname : name.kind = .word)
      (hargs : Words ts args) (hfilters : Filters us calls) :
      Filters (pipe :: name :: (ts ++ us)) (⟨name.text, args⟩ :: calls)

/-- `[REDIR filename]` -/
inductive Output : List Token → Option Text → Prop where
  | unnamed : Output [] none
  | named {redirect file} (hredirect : redirect.kind = .redirect) (hfile : file.kind = .filename) :
      Output [redirect, file] (some file.text)

/-- `W (W | LC)* (PIPE word (W | LC)*)* [REDIR filename]` -/
inductive IsStatement : List Token → Statement → Prop where
  | mk {t w ts ws fs calls os output} (hfirst : t.word? = some w) (hwords : Words ts ws)
      (hfilters : Filters fs calls) (houtput : Output os output) :
      IsStatement (t :: (ts ++ (fs ++ os))) ⟨(w :: ws).map .literal, calls, output⟩

/-- `(SEP LC* statement)* [SEP LC*]` -/
inductive More : List Token → List Statement → Prop where
  | nil : More [] []
  | trailing {sep cs} (hsep : sep.kind = .separator) (hcs : Continuations cs) : More (sep :: cs) []
  | cons {sep cs ts s us ss} (hsep : sep.kind = .separator) (hcs : Continuations cs)
      (hstatement : IsStatement ts s) (hmore : More us ss) :
      More (sep :: (cs ++ (ts ++ us))) (s :: ss)

/-- `LC* [statement (SEP LC* statement)* [SEP LC*]]` -/
inductive IsLine : List Token → List Statement → Prop where
  | blank {cs} (hcs : Continuations cs) : IsLine cs []
  | mk {cs ts s us ss} (hcs : Continuations cs) (hstatement : IsStatement ts s)
      (hmore : More us ss) : IsLine (cs ++ (ts ++ us)) (s :: ss)

theorem continuations_nil : Continuations [] := fun _ h => absurd h List.not_mem_nil

theorem Continuations.cons {t : Token} {cs : List Token} (ht : t.kind = .continuation)
    (hcs : Continuations cs) : Continuations (t :: cs) := by
  intro u hu
  rcases List.mem_cons.1 hu with rfl | hu
  · exact ht
  · exact hcs u hu

theorem IsLine.skip {t : Token} {ts : List Token} {ss : List Statement}
    (ht : t.kind = .continuation) (h : IsLine ts ss) : IsLine (t :: ts) ss := by
  cases h with
  | blank hcs => exact .blank (hcs.cons ht)
  | mk hcs hstatement hmore => exact .mk (hcs.cons ht) hstatement hmore

/-- What may come after a separator is a line. -/
theorem IsLine.more {sep : Token} {ts : List Token} {ss : List Statement}
    (hsep : sep.kind = .separator) (h : IsLine ts ss) : More (sep :: ts) ss := by
  cases h with
  | blank hcs => exact .trailing hsep hcs
  | mk hcs hstatement hmore => exact .cons hsep hcs hstatement hmore

end Grammar

end MenuLine
