import MenuLine.Console
import Mathlib.Data.List.Nodup

/-!
# The open menus are a path of names

A stack of menus holds positions, and it holds none at all before the first
menu is entered, though the root is open from its creation on. A `Trail` has
neither: it is the names that were created and the names that are open. A
console and a trail that are given the same operations refuse the same ones for
the same reasons and look the same after each (`Console.replay_refines_trail`).
-/

namespace MenuLine

universe u v w

namespace Operation

variable {σ : Type u} {τ : Type v} {ε : Type w} {R : σ → τ → Prop}

/-- The same errors, and what is left of one machine is related to what is left
of the other. -/
structure Agree (R : σ → τ → Prop) (x : ε × σ) (y : ε × τ) : Prop where
  errors : x.1 = y.1
  left : R x.2 y.2

theorem replay_simulates {act : σ → Operation → Option OperationError × σ}
    {act' : τ → Operation → Option OperationError × τ}
    (hact : ∀ {s t}, R s t → ∀ op, Agree R (act s op) (act' t op)) {s : σ} {t : τ} (h : R s t)
    (ops : List Operation) : Agree R (replay act s ops) (replay act' t ops) := by
  induction ops generalizing s t with
  | nil => exact ⟨rfl, h⟩
  | cons op ops ih =>
      obtain ⟨hhead, hnext⟩ := hact h op
      obtain ⟨htail, hlast⟩ := ih hnext
      refine ⟨?_, hlast⟩
      simp only [replay, hhead, htail]

/-- Every menu that is entered is left again, and none besides. -/
inductive Balanced : List Operation → Prop
  | nil : Balanced []
  | within {name : Text} {inner rest : List Operation} (hinner : Balanced inner)
      (hrest : Balanced rest) : Balanced (.enter name :: (inner ++ .leave :: rest))

end Operation

/-- The names of all menus, in the order of creation, and of the open ones, the
root first. -/
structure Trail where
  names : List Text
  path : List Text
  nodup : names.Nodup
  head : path.head? = names.head?

namespace Trail

def start : Trail := ⟨[], [], List.nodup_nil, rfl⟩

theorem path_eq_nil_iff (t : Trail) : t.path = [] ↔ t.names = [] := by
  rw [← List.head?_eq_none_iff, t.head, List.head?_eq_none_iff]

theorem path_ne_nil_of_mem (t : Trail) {name : Text} (h : name ∈ t.names) : t.path ≠ [] :=
  mt t.path_eq_nil_iff.1 (List.ne_nil_of_mem h)

def create (t : Trail) (name : Text) (h : name ∉ t.names) : Trail where
  names := t.names ++ [name]
  path := if t.path = [] then [name] else t.path
  nodup := by
    rw [← List.concat_eq_append]
    exact t.nodup.concat h
  head := by
    split
    · next hpath => simp [t.path_eq_nil_iff.1 hpath]
    · next hpath => rw [t.head, List.head?_append_of_ne_nil _ (mt t.path_eq_nil_iff.2 hpath)]

def enter (t : Trail) (name : Text) (h : name ∈ t.names) : Trail where
  names := t.names
  path := t.path ++ [name]
  nodup := t.nodup
  head := by rw [List.head?_append_of_ne_nil _ (t.path_ne_nil_of_mem h), t.head]

def leave (t : Trail) (h : 1 < t.path.length) : Trail where
  names := t.names
  path := t.path.dropLast
  nodup := t.nodup
  head := by rw [List.dropLast_eq_take, List.head?_take, if_neg (by omega), t.head]

def act (t : Trail) : Operation → Option OperationError × Trail
  | .create name =>
    if h : name ∈ t.names then (some (.registration (.duplicateMenu name)), t)
    else (none, t.create name h)
  | .register menu description _ =>
    match Description.parse description with
    | .error e => (some (.registration e), t)
    | .ok _ =>
      if menu ∈ t.names then (none, t) else (some (.registration (.unknownMenu menu)), t)
  | .enter name =>
    if h : name ∈ t.names then (none, t.enter name h)
    else (some (.stack (.unknownMenu name)), t)
  | .leave =>
    if h : 1 < t.path.length then (none, t.leave h) else (some (.stack .cannotPop), t)

def view (t : Trail) : View where
  names := t.path
  current :=
    match t.path.getLast? with
    | some name => .ok (some name)
    | none => .error .noMenus
  shown := t.path.getLast?
  depth := max 1 t.path.length

theorem act_leave {t : Trail} {name : Text} (h : (t.act (.enter name)).1 = none) :
    (t.act (.enter name)).2.act .leave = (none, t) := by
  by_cases hname : name ∈ t.names
  · have hlen : 0 < t.path.length := List.length_pos_iff.2 (t.path_ne_nil_of_mem hname)
    simp [act, hname, enter, leave, hlen]
  · simp [act, hname] at h

theorem replay_balanced {ops : List Operation} (hops : Operation.Balanced ops) {t : Trail}
    (h : ∀ e ∈ (Operation.replay act t ops).1, e = none) :
    (Operation.replay act t ops).2 = t := by
  induction hops generalizing t with
  | nil => rfl
  | within hinner hrest ihinner ihrest =>
      simp only [Operation.replay, Operation.replay_append, List.forall_mem_cons,
        List.forall_mem_append] at h ⊢
      obtain ⟨henter, hin, hleave, hbehind⟩ := h
      rw [ihinner hin, act_leave henter] at hbehind ⊢
      exact ihrest hbehind

end Trail

namespace Console

open Operation (Agree)

/-- A console and a trail of the same names, where the open positions are those
of the open names. -/
structure Follows (c : Console) (t : Trail) : Prop where
  names : c.shell.menus.names = t.names
  path : (c.stack.opened c.shell.menus).map (t.names[·]?) = t.path.map some

variable {c : Console} {t : Trail}

theorem follows_start (config : Config) : (start config).Follows .start := ⟨rfl, rfl⟩

namespace Follows

theorem length_opened (h : c.Follows t) :
    (c.stack.opened c.shell.menus).length = t.path.length := by
  simpa using congrArg List.length h.path

theorem lt_size (h : c.Follows t) {id : MenuId} (hid : id ∈ c.stack.opened c.shell.menus) :
    id < c.shell.menus.size := by
  have hmem : t.names[id]? ∈ t.path.map some := by
    rw [← h.path]
    exact List.mem_map_of_mem hid
  obtain ⟨name, -, hname⟩ := List.mem_map.1 hmem
  obtain ⟨hlt, -⟩ := List.getElem?_eq_some_iff.1 hname.symm
  simpa [← h.names] using hlt

theorem stack_names_eq (h : c.Follows t) : c.stack.names c.shell.menus = t.path :=
  calc c.stack.names c.shell.menus
      = ((c.stack.opened c.shell.menus).map (t.names[·]?)).filterMap id := by
        rw [MenuStack.names_eq, h.names, List.filterMap_map]
        rfl
    _ = t.path := by
        rw [h.path]
        simp

theorem view_eq (h : c.Follows t) : c.view = t.view := by
  have hdepth : c.stack.depth = max 1 t.path.length := by
    rw [MenuStack.depth_eq c.stack c.shell.menus, h.length_opened]
  have hlast := congrArg List.getLast? h.path
  rw [List.getLast?_map, List.getLast?_map] at hlast
  simp only [view, Trail.view, Shell.currentName?, MenuStack.current_eq, h.stack_names_eq, hdepth]
  cases hid : (c.stack.opened c.shell.menus).getLast? with
  | none =>
      have hnone : t.path.getLast? = none := by simpa [hid] using hlast.symm
      simp only [hnone, Except.map]
  | some id =>
      rw [hid, Option.map_some] at hlast
      obtain ⟨name, hsome, hget⟩ := Option.map_eq_some_iff.1 hlast.symm
      have hmenu : (c.shell.menus.get? id).map Menu.name = some name := by
        rw [← Menus.getElem?_names, h.names, hget]
      simp only [hsome, Except.map, hmenu]

theorem frames_eq_nil (h : c.Follows t) (hpath : t.path = []) : c.stack.frames = [] := by
  by_contra hne
  have hlen := h.length_opened
  rw [MenuStack.opened_of_ne_nil _ hne, hpath] at hlen
  exact hne (List.length_eq_zero_iff.1 hlen)

theorem act_create (h : c.Follows t) (name : Text) :
    Agree Follows (c.act (.create name)) (t.act (.create name)) := by
  by_cases hname : name ∈ t.names
  · have hcreate := Menus.create_of_mem (h.names ▸ hname)
    simp only [act, Shell.addMenu, hcreate, Trail.act, dif_pos hname]
    exact ⟨rfl, h⟩
  · obtain ⟨menus, hcreate, hnames⟩ := Menus.exists_create (h.names ▸ hname)
    rw [h.names] at hnames
    simp only [act, Shell.addMenu, hcreate, Trail.act, dif_neg hname]
    refine ⟨rfl, hnames, ?_⟩
    by_cases hpath : t.path = []
    · -- the first menu of all is open at once
      have hopened : c.stack.opened menus = [0] := by
        simp [MenuStack.opened, h.frames_eq_nil hpath, Menus.root?_eq, hnames]
      simp [Trail.create, hpath, t.path_eq_nil_iff.1 hpath, hopened]
    · have hne : t.names ≠ [] := mt t.path_eq_nil_iff.2 hpath
      have hopened : c.stack.opened menus = c.stack.opened c.shell.menus :=
        c.stack.opened_congr (by simp [hnames, h.names, hne])
      simp only [Trail.create, if_neg hpath, hopened, ← h.path]
      refine List.map_congr_left fun id hid => List.getElem?_append_left ?_
      rw [← h.names, Menus.length_names]
      exact h.lt_size hid

theorem act_register (h : c.Follows t) (menu description : Text) (handler : Handler) :
    Agree Follows (c.act (.register menu description handler))
      (t.act (.register menu description handler)) := by
  cases hread : Description.parse description with
  | error e =>
      simp only [act, Shell.addCommand, hread, Trail.act]
      exact ⟨rfl, h⟩
  | ok read =>
      by_cases hmenu : menu ∈ t.names
      · obtain ⟨menus, hadd, hnames⟩ :=
          Menus.exists_add (⟨read, handler⟩ : Command) (h.names ▸ hmenu)
        simp only [act, Shell.addCommand, hread, hadd, Trail.act, if_pos hmenu]
        refine ⟨rfl, hnames.trans h.names, ?_⟩
        have hopened : c.stack.opened menus = c.stack.opened c.shell.menus :=
          c.stack.opened_congr (by rw [hnames])
        simp only [hopened, h.path]
      · have hadd := Menus.add_of_not_mem (⟨read, handler⟩ : Command) (h.names ▸ hmenu)
        simp only [act, Shell.addCommand, hread, hadd, Trail.act, if_neg hmenu]
        exact ⟨rfl, h⟩

theorem act_enter (h : c.Follows t) (name : Text) :
    Agree Follows (c.act (.enter name)) (t.act (.enter name)) := by
  by_cases hname : name ∈ t.names
  · obtain ⟨stack, id, hpush, hid, hopened⟩ := c.stack.exists_push (h.names ▸ hname)
    rw [h.names] at hid
    simp only [act, hpush, Trail.act, dif_pos hname]
    refine ⟨rfl, h.names, ?_⟩
    simp only [hopened, Trail.enter, List.map_append, h.path, List.map_singleton, hid]
  · have hpush := c.stack.push_of_not_mem (h.names ▸ hname)
    simp only [act, hpush, Trail.act, dif_neg hname]
    exact ⟨rfl, h⟩

theorem act_leave (h : c.Follows t) : Agree Follows (c.act .leave) (t.act .leave) := by
  have hlen := h.length_opened
  by_cases hdeep : 1 < t.path.length
  · obtain ⟨stack, hpop, hopened⟩ := MenuStack.exists_pop (hlen ▸ hdeep)
    simp only [act, hpop, Trail.act, dif_pos hdeep]
    refine ⟨rfl, h.names, ?_⟩
    simp only [hopened, Trail.leave, List.map_dropLast, h.path]
  · have hpop : c.stack.pop = .error .cannotPop :=
      MenuStack.pop_of_length_le (m := c.shell.menus) (by omega)
    simp only [act, hpop, Trail.act, dif_neg hdeep]
    exact ⟨rfl, h⟩

protected theorem act (h : c.Follows t) (op : Operation) :
    Agree Follows (c.act op) (t.act op) := by
  cases op with
  | create name => exact h.act_create name
  | register menu description handler => exact h.act_register menu description handler
  | enter name => exact h.act_enter name
  | leave => exact h.act_leave

protected theorem replay (h : c.Follows t) (ops : List Operation) :
    Agree Follows (Operation.replay Console.act c ops) (Operation.replay Trail.act t ops) :=
  Operation.replay_simulates Follows.act h ops

/-- Entering a menu and leaving it leads back, whatever was entered and left in
between. -/
theorem view_leave (h : c.Follows t) {name : Text} {inner : List Operation}
    (hinner : Operation.Balanced inner)
    (hdone : ∀ e ∈ (Operation.replay act c (.enter name :: inner)).1, e = none) :
    ∃ d, (Operation.replay act c (.enter name :: inner)).2.act .leave = (none, d) ∧
      d.view = c.view := by
  obtain ⟨herrors, hinside⟩ := h.replay (.enter name :: inner)
  rw [herrors, Operation.replay, List.forall_mem_cons] at hdone
  obtain ⟨henter, hin⟩ := hdone
  have hback : (Operation.replay Trail.act t (.enter name :: inner)).2 =
      (t.act (.enter name)).2 := Trail.replay_balanced hinner hin
  have hleave := hinside.act .leave
  rw [hback, Trail.act_leave henter] at hleave
  refine ⟨_, Prod.ext hleave.errors rfl, ?_⟩
  rw [hleave.left.view_eq, h.view_eq]

end Follows

/-- After any operations a console looks like the trail that was given the same
ones, and the same were refused. Its positions are those of menus, and what is
refused leaves it as it was. -/
theorem replay_refines_trail (config : Config) (ops : List Operation) :
    let c := (Operation.replay act (start config) ops).2
    let t := (Operation.replay Trail.act .start ops).2
    (Operation.replay act (start config) ops).1 = (Operation.replay Trail.act .start ops).1 ∧
      c.view = t.view ∧ c.shell.menus.names = t.names ∧
      (∀ id ∈ c.stack.frames, id < c.shell.menus.size) ∧
      (∀ id, c.stack.current c.shell.menus = .ok id → id < c.shell.menus.size) ∧
      (∀ op, (c.act op).1 ≠ none → (c.act op).2 = c) ∧
      ∀ name inner, Operation.Balanced inner →
        (∀ e ∈ (Operation.replay act c (.enter name :: inner)).1, e = none) →
          ∃ d, (Operation.replay act c (.enter name :: inner)).2.act .leave = (none, d) ∧
            d.view = c.view := by
  intro c t
  obtain ⟨herrors, hfollows⟩ := (follows_start config).replay ops
  refine ⟨herrors, hfollows.view_eq, hfollows.names, ?_, ?_, fun op => act_of_refused, ?_⟩
  · intro id hid
    exact hfollows.lt_size (MenuStack.mem_opened _ hid)
  · intro id hid
    exact hfollows.lt_size (MenuStack.mem_opened_of_current hid)
  · intro name inner hinner hdone
    exact hfollows.view_leave hinner hdone

/-- A way from `b` through `a` and `b` again and back, and a name that is
taken. -/
theorem replay_refines_trail_two_menus :
    let ops : List Operation := [.create ['a'], .create ['b'], .enter ['b']]
    let c := (Operation.replay act (start .default) ops).2
    let inner : List Operation := [.enter ['b'], .leave]
    c.view.names = [['a'], ['b']] ∧ 1 ∈ c.stack.frames ∧
      c.stack.current c.shell.menus = .ok 1 ∧ 1 < c.shell.menus.size ∧
      (c.act (.create ['a'])).1 ≠ none ∧ (c.act (.create ['a'])).2 = c ∧
      Operation.Balanced inner ∧
      (∀ e ∈ (Operation.replay act c (.enter ['a'] :: inner)).1, e = none) ∧
      ∃ d, (Operation.replay act c (.enter ['a'] :: inner)).2.act .leave = (none, d) ∧
        d.view = c.view := by
  intro ops c inner
  have hframe : 1 ∈ c.stack.frames := by decide
  have hrefused : (c.act (.create ['a'])).1 ≠ none := by decide
  have hinner : Operation.Balanced inner := .within .nil .nil
  have hdone : ∀ e ∈ (Operation.replay act c (.enter ['a'] :: inner)).1, e = none := by decide
  obtain ⟨-, -, -, hframes, -, hunchanged, hback⟩ := replay_refines_trail .default ops
  exact ⟨by decide, hframe, rfl, hframes 1 hframe, hrefused, hunchanged _ hrefused, hinner, hdone,
    hback ['a'] inner hinner hdone⟩

end Console

end MenuLine
