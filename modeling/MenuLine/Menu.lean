import MenuLine.Description

/-!
# Menus

Menus are created once and stay where they are, so a menu is known by its
position. The first one is the root. The stack holds the menus that have been
entered, the root first; it is empty until some menu is entered, and the root
is never left.
-/

namespace MenuLine

structure Menu (κ : Type u) where
  name : Text
  commands : List κ

/-- Every menu, in the order of creation. -/
structure Menus (κ : Type u) where
  all : List (Menu κ)

abbrev MenuId := Nat

namespace Menus

variable {κ : Type u}

def empty : Menus κ := ⟨[]⟩

def size (m : Menus κ) : Nat := m.all.length

def names (m : Menus κ) : List Text := m.all.map Menu.name

def find? (m : Menus κ) (name : Text) : Option MenuId :=
  m.all.findIdx? fun menu => menu.name == name

def get? (m : Menus κ) (id : MenuId) : Option (Menu κ) := m.all[id]?

def commands (m : Menus κ) (id : MenuId) : List κ := ((m.get? id).map Menu.commands).getD []

def root? (m : Menus κ) : Option MenuId := if m.all.isEmpty then none else some 0

@[simp] theorem names_empty : (empty : Menus κ).names = [] := rfl

theorem isSome_find? (m : Menus κ) (name : Text) :
    (m.find? name).isSome = true ↔ name ∈ m.names := by
  simp [find?, names]

theorem find?_eq (m : Menus κ) (name : Text) :
    m.find? name = m.names.findIdx? (· == name) := by
  simp [find?, names, List.findIdx?_map, Function.comp_def]

theorem find?_eq_none_iff {m : Menus κ} {name : Text} :
    m.find? name = none ↔ name ∉ m.names := by
  rw [← isSome_find?, Bool.not_eq_true, Option.isSome_eq_false_iff, Option.isNone_iff_eq_none]

theorem getElem?_names (m : Menus κ) (id : MenuId) :
    m.names[id]? = (m.get? id).map Menu.name := by
  simp [names, get?]

theorem getElem?_names_of_find? {m : Menus κ} {name : Text} {id : MenuId}
    (h : m.find? name = some id) : m.names[id]? = some name := by
  rw [find?_eq, List.findIdx?_eq_some_iff_getElem] at h
  obtain ⟨hid, hname, -⟩ := h
  rw [List.getElem?_eq_getElem hid]
  exact congrArg some (by simpa using hname)

@[simp] theorem length_names (m : Menus κ) : m.names.length = m.size := by
  simp [names, size]

theorem root?_eq (m : Menus κ) : m.root? = if m.names.isEmpty then none else some 0 := by
  simp [root?, names]

/-- A new menu comes after all others; a name that is taken is refused. -/
def create (m : Menus κ) (name : Text) : Except RegistrationError (Menus κ) :=
  if (m.find? name).isSome then .error (.duplicateMenu name)
  else .ok ⟨m.all ++ [⟨name, []⟩]⟩

theorem create_of_mem {m : Menus κ} {name : Text} (h : name ∈ m.names) :
    m.create name = .error (.duplicateMenu name) := by
  rw [create, if_pos ((isSome_find? m name).2 h)]

theorem exists_create {m : Menus κ} {name : Text} (h : name ∉ m.names) :
    ∃ m', m.create name = .ok m' ∧ m'.names = m.names ++ [name] := by
  rw [create, if_neg (mt (isSome_find? m name).1 h)]
  exact ⟨_, rfl, by simp [names]⟩

/-- A new command comes after all others of its menu. -/
def add (m : Menus κ) (name : Text) (command : κ) : Except RegistrationError (Menus κ) :=
  match m.find? name with
  | none => .error (.unknownMenu name)
  | some id =>
    .ok ⟨m.all.modify id fun menu => { menu with commands := menu.commands ++ [command] }⟩

theorem add_of_not_mem {m : Menus κ} {name : Text} (command : κ) (h : name ∉ m.names) :
    m.add name command = .error (.unknownMenu name) := by
  simp only [add, find?_eq_none_iff.2 h]

theorem exists_add {m : Menus κ} {name : Text} (command : κ) (h : name ∈ m.names) :
    ∃ m', m.add name command = .ok m' ∧ m'.names = m.names := by
  obtain ⟨id, hid⟩ := Option.isSome_iff_exists.1 ((isSome_find? m name).2 h)
  simp only [add, hid]
  refine ⟨_, rfl, List.ext_getElem? fun i => ?_⟩
  simp only [names, List.getElem?_map, List.getElem?_modify]
  cases m.all[i]? with
  | none => rfl
  | some menu => by_cases hi : id = i <;> simp [hi]

end Menus

inductive StackError where
  | unknownMenu (name : Text)
  | cannotPop
  | noMenus
deriving DecidableEq, Repr

namespace StackError

def message : StackError → Text
  | unknownMenu name => "unknown command set: ".toList ++ name
  | cannotPop => "can't pop command set".toList
  | noMenus => "no command sets registered".toList

end StackError

/-- The menus that have been entered, the root first. -/
structure MenuStack where
  frames : List MenuId
deriving DecidableEq, Repr

namespace MenuStack

variable {κ : Type u}

def empty : MenuStack := ⟨[]⟩

/-- Entering the first menu puts the root below it. -/
def push (s : MenuStack) (m : Menus κ) (name : Text) : Except StackError MenuStack :=
  match m.find? name with
  | none => .error (.unknownMenu name)
  | some id => .ok ⟨(if s.frames.isEmpty then m.root?.toList else s.frames) ++ [id]⟩

def pop (s : MenuStack) : Except StackError MenuStack :=
  if s.frames.length ≤ 1 then .error .cannotPop else .ok ⟨s.frames.dropLast⟩

def current (s : MenuStack) (m : Menus κ) : Except StackError MenuId :=
  match s.frames.getLast? <|> m.root? with
  | some id => .ok id
  | none => .error .noMenus

/-- The number of open menus, the root counted even before it is entered. -/
def depth (s : MenuStack) : Nat := max s.frames.length 1

/-- Leaving a menu leads back to where it was entered. Before the first menu
is entered the root is open without being noted. -/
theorem pop_push {s t : MenuStack} {m : Menus κ} {name : Text} (hs : s.frames ≠ [])
    (h : s.push m name = .ok t) : t.pop = .ok s := by
  unfold push at h
  split at h
  · cases h
  · next id _ =>
    cases h
    have hlen : 0 < s.frames.length := List.length_pos_iff.2 hs
    simp only [pop, List.isEmpty_eq_false_iff.2 hs, if_false, Bool.false_eq_true,
      List.length_append, List.length_singleton, List.dropLast_concat]
    rw [if_neg (by omega)]

/-- From the root to the innermost menu. -/
def names (s : MenuStack) (m : Menus κ) : List Text :=
  (if s.frames.isEmpty then m.root?.toList else s.frames).filterMap fun id =>
    (m.get? id).map Menu.name

/-- The menus that are open, the root among them even before it is noted. -/
def opened (s : MenuStack) (m : Menus κ) : List MenuId :=
  if s.frames.isEmpty then m.root?.toList else s.frames

theorem opened_of_ne_nil {s : MenuStack} (m : Menus κ) (h : s.frames ≠ []) :
    s.opened m = s.frames := by
  simp [opened, h]

theorem opened_congr (s : MenuStack) {m m' : Menus κ} (h : m'.names = [] ↔ m.names = []) :
    s.opened m' = s.opened m := by
  simp only [opened, Menus.root?_eq, List.isEmpty_iff, h]

theorem mem_opened {s : MenuStack} (m : Menus κ) {id : MenuId} (h : id ∈ s.frames) :
    id ∈ s.opened m := by
  rwa [opened_of_ne_nil m (List.ne_nil_of_mem h)]

theorem names_eq (s : MenuStack) (m : Menus κ) :
    s.names m = (s.opened m).filterMap (m.names[·]?) := by
  simp only [names, opened, Menus.getElem?_names]

theorem depth_eq (s : MenuStack) (m : Menus κ) : s.depth = max 1 (s.opened m).length := by
  rcases s with ⟨_ | ⟨id, ids⟩⟩
  · cases h : m.root? <;> simp [depth, opened, h]
  · simp [depth, opened]

theorem getLast?_opened (s : MenuStack) (m : Menus κ) :
    (s.opened m).getLast? = (s.frames.getLast? <|> m.root?) := by
  rcases s with ⟨_ | ⟨id, ids⟩⟩
  · cases h : m.root? <;> simp [opened, h]
  · simp [opened, List.getLast?_cons]

theorem current_eq (s : MenuStack) (m : Menus κ) :
    s.current m =
      match (s.opened m).getLast? with
      | some id => .ok id
      | none => .error .noMenus := by
  rw [getLast?_opened]
  rfl

theorem current_eq_ok_iff {s : MenuStack} {m : Menus κ} {id : MenuId} :
    s.current m = .ok id ↔ (s.opened m).getLast? = some id := by
  rw [current_eq]
  cases (s.opened m).getLast? <;> simp

theorem mem_opened_of_current {s : MenuStack} {m : Menus κ} {id : MenuId}
    (h : s.current m = .ok id) : id ∈ s.opened m :=
  List.mem_of_getLast? (current_eq_ok_iff.1 h)

theorem push_of_not_mem (s : MenuStack) {m : Menus κ} {name : Text} (h : name ∉ m.names) :
    s.push m name = .error (.unknownMenu name) := by
  simp only [push, Menus.find?_eq_none_iff.2 h]

theorem exists_push (s : MenuStack) {m : Menus κ} {name : Text} (h : name ∈ m.names) :
    ∃ t id, s.push m name = .ok t ∧ m.names[id]? = some name ∧
      t.opened m = s.opened m ++ [id] := by
  obtain ⟨id, hid⟩ := Option.isSome_iff_exists.1 ((Menus.isSome_find? m name).2 h)
  refine ⟨⟨s.opened m ++ [id]⟩, id, ?_, Menus.getElem?_names_of_find? hid, ?_⟩
  · simp only [push, hid, opened]
  · exact opened_of_ne_nil m (by simp)

theorem pop_of_length_le {s : MenuStack} {m : Menus κ} (h : (s.opened m).length ≤ 1) :
    s.pop = .error .cannotPop := by
  have hdepth := depth_eq s m
  unfold depth at hdepth
  rw [pop, if_pos (by omega)]

theorem exists_pop {s : MenuStack} {m : Menus κ} (h : 1 < (s.opened m).length) :
    ∃ t, s.pop = .ok t ∧ t.opened m = (s.opened m).dropLast := by
  have hdepth := depth_eq s m
  unfold depth at hdepth
  have hne : s.frames ≠ [] := List.length_pos_iff.1 (by omega)
  refine ⟨⟨s.frames.dropLast⟩, by rw [pop, if_neg (by omega)], ?_⟩
  rw [opened_of_ne_nil m hne]
  exact opened_of_ne_nil m (List.length_pos_iff.1 (by simp; omega))

end MenuStack

end MenuLine
