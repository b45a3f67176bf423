import MenuLine.Catalog
import MenuLine.Navigation
import Mathlib

/-!
# Registration

In a catalog that was made by registrations the index has each menu at its own
position (`Catalog.Sound`), whatever is registered later only adds to what is
there (`Catalog.Grown`), and what is refused changes nothing. The main statement
is `Catalog.register_of_registerAll`.
-/

namespace MenuLine

namespace Menus

variable {κ : Type u}

theorem exists_append_of_get? {m : Menus κ} {id : MenuId} {menu : Menu κ}
    (h : m.get? id = some menu) :
    ∃ front back, m.all = front ++ menu :: back ∧ front.length = id := by
  obtain ⟨hlt, hget⟩ := List.getElem?_eq_some_iff.1 h
  refine ⟨m.all.take id, m.all.drop (id + 1), ?_, List.length_take_of_le hlt.le⟩
  rw [← hget, List.append_cons, List.take_append_getElem hlt, List.take_append_drop]

theorem modify_append (front back : List (Menu κ)) (menu : Menu κ) (f : Menu κ → Menu κ) :
    (front ++ menu :: back).modify front.length f = front ++ f menu :: back := by
  induction front with
  | nil => rfl
  | cons first front ih =>
      rw [List.length_cons, List.cons_append, List.modify_succ_cons, ih]
      rfl

end Menus

namespace Catalog

/-- The names of the menus, in the order of creation. -/
abbrev names (c : Catalog) : List Text := c.shell.menus.names

/-- A name is in the index if and only if there is a menu of that name, with the
position of that menu. -/
structure Sound (c : Catalog) : Prop where
  index : ∀ name id, c.index name = some id ↔ c.names[id]? = some name

/-- All that there was is still in its place. -/
structure Grown (c d : Catalog) : Prop where
  names : c.names <+: d.names
  index : ∀ name id, c.index name = some id → d.index name = some id
  commands : ∀ id, c.shell.menus.commands id <+: d.shell.menus.commands id
  completers : c.shell.completers.entries <+: d.shell.completers.entries
  filters : c.shell.filters.entries <+: d.shell.filters.entries
  stack : d.stack = c.stack

variable {c d e : Catalog} {name : Text}

/-! ## The index -/

@[simp] theorem names_start (config : Config) (stack : MenuStack) :
    (start config stack).names = [] := rfl

theorem sound_start (config : Config) (stack : MenuStack) : (start config stack).Sound :=
  ⟨fun name id => by rw [names_start]; simp [start]⟩

namespace Sound

theorem isSome_index (h : c.Sound) (name : Text) :
    (c.index name).isSome = true ↔ name ∈ c.names := by
  rw [Option.isSome_iff_exists, List.mem_iff_getElem?]
  exact exists_congr (h.index name)

theorem index_eq_none (h : c.Sound) (hname : name ∉ c.names) : c.index name = none := by
  rw [← h.isSome_index] at hname
  simpa using hname

/-- No two menus have the same name. -/
theorem nodup (h : c.Sound) : c.names.Nodup := by
  refine List.nodup_iff_getElem?_ne_getElem?.2 fun i j hij hj heq => ?_
  have hname := List.getElem?_eq_getElem hj
  have hi := (h.index _ i).2 (heq.trans hname)
  cases hi.symm.trans ((h.index _ j).2 hname)
  exact Nat.lt_irrefl _ hij

/-- What the index says is what looking among the menus gives. -/
theorem index_eq (h : c.Sound) (name : Text) : c.index name = c.shell.menus.find? name := by
  cases hfind : c.shell.menus.find? name with
  | none => exact h.index_eq_none (Menus.find?_eq_none_iff.1 hfind)
  | some id => exact (h.index name id).2 (Menus.getElem?_names_of_find? hfind)

end Sound

/-! ## What a registration does -/

@[simp] theorem names_create (c : Catalog) (name : Text) :
    (c.create name).names = c.names ++ [name] := by
  simp [names, create, Menus.names]

@[simp] theorem names_append (c : Catalog) (id : MenuId) (command : Command) :
    (c.append id command).names = c.names := by
  refine List.ext_getElem? fun i => ?_
  simp only [names, append, Menus.names, List.getElem?_map, List.getElem?_modify]
  cases c.shell.menus.all[i]? with
  | none => rfl
  | some menu => by_cases hi : id = i <;> simp [hi]

theorem Sound.create (h : c.Sound) (hname : name ∉ c.names) : (c.create name).Sound := by
  constructor
  intro other id
  have hindex : (c.create name).index other =
      if other = name then some c.names.length else c.index other := by
    rw [Menus.length_names]
    rfl
  rw [hindex, names_create]
  rcases Nat.lt_trichotomy id c.names.length with hid | rfl | hid
  · -- a menu that was there before, and so one of another name
    rw [List.getElem?_append_left hid, ← h.index]
    by_cases hother : other = name
    · subst hother
      simp [-Menus.length_names, h.index_eq_none hname, hid.ne']
    · rw [if_neg hother]
  · rw [List.getElem?_concat_length]
    by_cases hother : other = name
    · simp [-Menus.length_names, hother]
    · have hnone : c.index other ≠ some c.names.length := by
        rw [ne_eq, h.index]
        simp
      simp [-Menus.length_names, hother, hnone, Ne.symm hother]
  · have hnone : c.names[id]? = none := List.getElem?_eq_none hid.le
    have hmore : (c.names ++ [name])[id]? = none :=
      List.getElem?_eq_none (by rw [List.length_append]; exact hid)
    rw [hmore]
    by_cases hother : other = name
    · simp [-Menus.length_names, hother, hid.ne]
    · rw [if_neg hother, h.index, hnone]

theorem Sound.append (h : c.Sound) (id : MenuId) (command : Command) :
    (c.append id command).Sound := by
  constructor
  rw [names_append]
  exact h.index

theorem register_menu (h : c.Sound) (name : Text) :
    (name ∈ c.names → c.register (.menu name) = (some (.duplicateMenu name), c)) ∧
      (name ∉ c.names → c.register (.menu name) = (none, c.create name)) := by
  rw [← h.isSome_index]
  exact ⟨fun hname => if_pos hname, fun hname => if_neg hname⟩

theorem register_command_of_error {description : Text} {e : RegistrationError}
    (he : Description.parse description = .error e) (c : Catalog) (menu : Text)
    (handler : Handler) :
    c.register (.command menu description handler) = (some e, c) := by
  simp only [register, he]

theorem register_command (h : c.Sound) (menu : Text) {description : Text} {d : Description}
    (hd : Description.parse description = .ok d) (handler : Handler) :
    (menu ∉ c.names →
      c.register (.command menu description handler) = (some (.unknownMenu menu), c)) ∧
      ∀ id, c.names[id]? = some menu →
        c.register (.command menu description handler) = (none, c.append id ⟨d, handler⟩) := by
  constructor
  · intro hmenu
    simp only [register, hd, h.index_eq_none hmenu]
  · intro id hid
    simp only [register, hd, (h.index menu id).2 hid]

/-- The command is the last one of its menu, and all else is as it was. -/
theorem append_eq {menu : Text} {id : MenuId} (hid : c.names[id]? = some menu)
    (command : Command) :
    ∃ front commands back,
      c.shell.menus.all = front ++ ⟨menu, commands⟩ :: back ∧ front.length = id ∧
        c.append id command = { c with
          shell.menus := ⟨front ++ ⟨menu, commands ++ [command]⟩ :: back⟩ } := by
  obtain ⟨⟨_, commands⟩, hget, rfl⟩ :=
    Option.map_eq_some_iff.1 ((Menus.getElem?_names _ _).symm.trans hid)
  obtain ⟨front, back, hall, rfl⟩ := Menus.exists_append_of_get? hget
  refine ⟨front, commands, back, hall, rfl, ?_⟩
  rw [append, hall, Menus.modify_append]

theorem register_completer (c : Catalog) (name : Text) (completer : FileTree → Completer) :
    (name ∈ c.shell.completers.names →
      c.register (.completer name completer) = (some (.duplicateCompleter name), c)) ∧
      (name ∉ c.shell.completers.names →
        c.register (.completer name completer) = (none, { c with
          shell.completers := ⟨c.shell.completers.entries ++ [(name, completer)]⟩ })) := by
  constructor
  · intro hname
    simp only [register, Table.insert?_of_mem hname]
  · intro hname
    simp only [register, Table.insert?_of_not_mem hname]

theorem register_filter (c : Catalog) (name : Text) (filter : Filter) :
    (name ∈ c.shell.filters.names →
      c.register (.filter name filter) = (some (.duplicateFilter name), c)) ∧
      (name ∉ c.shell.filters.names →
        c.register (.filter name filter) = (none, { c with
          shell.filters := ⟨c.shell.filters.entries ++ [(name, filter)]⟩ })) := by
  constructor
  · intro hname
    simp only [register, Table.insert?_of_mem hname]
  · intro hname
    simp only [register, Table.insert?_of_not_mem hname]

/-- Going through an index or not comes to the same. -/
theorem shell_register (h : c.Sound) (r : Registration) :
    (∀ e, (c.register r).1 = some e → c.shell.register r = .error e) ∧
      ((c.register r).1 = none → c.shell.register r = .ok (c.register r).2.shell) := by
  cases r with
  | menu name =>
      simp only [register, Shell.register, Shell.addMenu, Menus.create, h.index_eq]
      cases (c.shell.menus.find? name).isSome <;> simp [create]
  | command menu description handler =>
      simp only [register, Shell.register, Shell.addCommand, Menus.add, h.index_eq]
      cases Description.parse description with
      | error e => simp
      | ok d => cases c.shell.menus.find? menu <;> simp [append]
  | completer name completer =>
      simp only [register, Shell.register, Shell.addCompleter]
      cases c.shell.completers.insert? name completer <;> simp
  | filter name filter =>
      simp only [register, Shell.register, Shell.addFilter]
      cases c.shell.filters.insert? name filter <;> simp

theorem register_of_refused (c : Catalog) {r : Registration} (h : (c.register r).1 ≠ none) :
    (c.register r).2 = c := by
  cases r with
  | menu name =>
      revert h
      simp only [register]
      split <;> simp
  | command menu description handler =>
      revert h
      simp only [register]
      split
      · simp
      · split <;> simp
  | completer name completer =>
      revert h
      simp only [register]
      split <;> simp
  | filter name filter =>
      revert h
      simp only [register]
      split <;> simp

/-! ## What a registration keeps -/

/-- What the four kinds of registration can come to. -/
theorem register_cases (h : c.Sound) (r : Registration) :
    (c.register r).2 = c ∨
      (∃ name, r = .menu name ∧ name ∉ c.names ∧ (c.register r).2 = c.create name) ∨
      (∃ id command, (c.register r).2 = c.append id command) ∨
      (∃ entry, (c.register r).2 = { c with
        shell.completers := ⟨c.shell.completers.entries ++ [entry]⟩ }) ∨
      ∃ entry, (c.register r).2 = { c with
        shell.filters := ⟨c.shell.filters.entries ++ [entry]⟩ } := by
  cases r with
  | menu name =>
      obtain ⟨htaken, hnew⟩ := register_menu h name
      by_cases hname : name ∈ c.names
      · rw [htaken hname]
        exact .inl rfl
      · rw [hnew hname]
        exact .inr (.inl ⟨name, rfl, hname, rfl⟩)
  | command menu description handler =>
      simp only [register]
      cases Description.parse description with
      | error e => exact .inl rfl
      | ok d =>
          cases c.index menu with
          | none => exact .inl rfl
          | some id => exact .inr (.inr (.inl ⟨id, _, rfl⟩))
  | completer name completer =>
      obtain ⟨htaken, hnew⟩ := register_completer c name completer
      by_cases hname : name ∈ c.shell.completers.names
      · rw [htaken hname]
        exact .inl rfl
      · rw [hnew hname]
        exact .inr (.inr (.inr (.inl ⟨_, rfl⟩)))
  | filter name filter =>
      obtain ⟨htaken, hnew⟩ := register_filter c name filter
      by_cases hname : name ∈ c.shell.filters.names
      · rw [htaken hname]
        exact .inl rfl
      · rw [hnew hname]
        exact .inr (.inr (.inr (.inr ⟨_, rfl⟩)))

theorem Sound.register (h : c.Sound) (r : Registration) : (c.register r).2.Sound := by
  obtain hsame | ⟨name, -, hname, hcreate⟩ | ⟨id, command, happend⟩ | ⟨entry, hentry⟩ |
    ⟨entry, hentry⟩ := register_cases h r
  · rwa [hsame]
  · rw [hcreate]
    exact h.create hname
  · rw [happend]
    exact h.append id command
  · rw [hentry]
    exact ⟨h.index⟩
  · rw [hentry]
    exact ⟨h.index⟩

theorem Sound.registerAll (h : c.Sound) (rs : List Registration) : (c.registerAll rs).Sound := by
  induction rs generalizing c with
  | nil => exact h
  | cons r rs ih => exact ih (h.register r)

namespace Grown

protected theorem refl (c : Catalog) : c.Grown c where
  names := List.prefix_rfl
  index _ _ h := h
  commands _ := List.prefix_rfl
  completers := List.prefix_rfl
  filters := List.prefix_rfl
  stack := rfl

protected theorem trans (h : c.Grown d) (h' : d.Grown e) : c.Grown e where
  names := h.names.trans h'.names
  index name id hid := h'.index name id (h.index name id hid)
  commands id := (h.commands id).trans (h'.commands id)
  completers := h.completers.trans h'.completers
  filters := h.filters.trans h'.filters
  stack := h'.stack.trans h.stack

theorem create (hname : c.index name = none) : c.Grown (c.create name) := by
  refine { Grown.refl c with names := ?_, index := ?_, commands := ?_ }
  · rw [names_create]
    exact List.prefix_append _ _
  · intro other id hid
    have hother : other ≠ name := by
      rintro rfl
      rw [hname] at hid
      cases hid
    exact (if_neg hother).trans hid
  · intro id
    simp only [Catalog.create, Menus.commands, Menus.get?]
    cases hid : c.shell.menus.all[id]? with
    | none => exact List.nil_prefix
    | some menu =>
        have hlt := (List.getElem?_eq_some_iff.1 hid).1
        rw [List.getElem?_append_left hlt, hid]

theorem append (c : Catalog) (id : MenuId) (command : Command) :
    c.Grown (c.append id command) := by
  refine { Grown.refl c with names := ?_, commands := ?_ }
  · rw [names_append]
  · intro i
    simp only [Catalog.append, Menus.commands, Menus.get?, List.getElem?_modify]
    cases c.shell.menus.all[i]? with
    | none => exact List.nil_prefix
    | some menu => by_cases hi : id = i <;> simp [hi]

theorem register (h : c.Sound) (r : Registration) : c.Grown (c.register r).2 := by
  obtain hsame | ⟨name, -, hname, hcreate⟩ | ⟨id, command, happend⟩ | ⟨entry, hentry⟩ |
    ⟨entry, hentry⟩ := register_cases h r
  · rw [hsame]
    exact .refl c
  · rw [hcreate]
    exact create (h.index_eq_none hname)
  · rw [happend]
    exact append c id command
  · rw [hentry]
    exact { Grown.refl c with completers := List.prefix_append _ _ }
  · rw [hentry]
    exact { Grown.refl c with filters := List.prefix_append _ _ }

theorem registerAll (h : c.Sound) (rs : List Registration) : c.Grown (c.registerAll rs) := by
  induction rs generalizing c with
  | nil => exact .refl c
  | cons r rs ih => exact (register h r).trans (ih (h.register r))

end Grown

theorem mem_names_register (h : c.Sound) (r : Registration) (name : Text) :
    name ∈ (c.register r).2.names ↔ name ∈ c.names ∨ .menu name = r := by
  cases r with
  | menu other =>
      obtain ⟨htaken, hnew⟩ := register_menu h other
      by_cases hother : other ∈ c.names
      · rw [htaken hother, Registration.menu.injEq, or_iff_left_of_imp]
        rintro rfl
        exact hother
      · rw [hnew hother, names_create, List.mem_append, List.mem_singleton,
          Registration.menu.injEq]
  | command menu description handler =>
      simp only [register, reduceCtorEq, or_false]
      cases Description.parse description with
      | error e => rfl
      | ok d => cases c.index menu <;> simp only [names_append]
  | completer other completer =>
      simp only [register, reduceCtorEq, or_false]
      cases c.shell.completers.insert? other completer <;> rfl
  | filter other filter =>
      simp only [register, reduceCtorEq, or_false]
      cases c.shell.filters.insert? other filter <;> rfl

/-- The menus are those that have been created. -/
theorem mem_names_registerAll (h : c.Sound) (rs : List Registration) (name : Text) :
    name ∈ (c.registerAll rs).names ↔ name ∈ c.names ∨ .menu name ∈ rs := by
  induction rs generalizing c with
  | nil => simp
  | cons r rs ih =>
      rw [registerAll_cons, ih (h.register r), mem_names_register h, or_assoc, List.mem_cons]

/-- After any registrations the index has exactly the menus that were created,
each at its position, and nothing that is registered later moves or changes what
there is. What is refused leaves all as it was. A description that cannot be read
is refused for that, whatever the menu; a command of a menu that was never
created is refused for that; any other command becomes the last one of exactly
its menu. Menus, completers and filters are refused if and only if there is one of
the same kind and name, and else come last of their kind. -/
theorem register_of_registerAll (config : Config) (stack : MenuStack) (rs : List Registration) :
    let c := (start config stack).registerAll rs
    (∀ name id, c.index name = some id ↔ c.names[id]? = some name) ∧
      (∀ name, name ∈ c.names ↔ .menu name ∈ rs) ∧ c.stack = stack ∧
      (∀ more, c.Grown (c.registerAll more)) ∧
      (∀ r, (c.register r).1 ≠ none → (c.register r).2 = c) ∧
      (∀ r, (∀ e, (c.register r).1 = some e → c.shell.register r = .error e) ∧
        ((c.register r).1 = none → c.shell.register r = .ok (c.register r).2.shell)) ∧
      (∀ name, (name ∈ c.names → c.register (.menu name) = (some (.duplicateMenu name), c)) ∧
        (name ∉ c.names → c.register (.menu name) = (none, c.create name))) ∧
      (∀ menu description handler,
        (∀ e, Description.parse description = .error e →
          c.register (.command menu description handler) = (some e, c)) ∧
        ∀ d, Description.parse description = .ok d →
          (.menu menu ∉ rs →
            c.register (.command menu description handler) = (some (.unknownMenu menu), c)) ∧
          (.menu menu ∈ rs → ∃ front commands back,
            c.shell.menus.all = front ++ ⟨menu, commands⟩ :: back ∧
              c.index menu = some front.length ∧
              c.register (.command menu description handler) =
                (none, { c with
                  shell.menus := ⟨front ++ ⟨menu, commands ++ [⟨d, handler⟩]⟩ :: back⟩ }))) ∧
      (∀ name completer,
        (name ∈ c.shell.completers.names →
          c.register (.completer name completer) = (some (.duplicateCompleter name), c)) ∧
        (name ∉ c.shell.completers.names →
          c.register (.completer name completer) = (none, { c with
            shell.completers := ⟨c.shell.completers.entries ++ [(name, completer)]⟩ }))) ∧
      ∀ name filter,
        (name ∈ c.shell.filters.names →
          c.register (.filter name filter) = (some (.duplicateFilter name), c)) ∧
        (name ∉ c.shell.filters.names →
          c.register (.filter name filter) = (none, { c with
            shell.filters := ⟨c.shell.filters.entries ++ [(name, filter)]⟩ })) := by
  intro c
  have hstart := sound_start config stack
  have hc : c.Sound := hstart.registerAll rs
  have hnames (name : Text) : name ∈ c.names ↔ .menu name ∈ rs := by
    simp [c, mem_names_registerAll hstart]
  refine ⟨hc.index, hnames, (Grown.registerAll hstart rs).stack, Grown.registerAll hc,
    fun r => register_of_refused c, shell_register hc, register_menu hc, ?_,
    register_completer c, register_filter c⟩
  intro menu description handler
  refine ⟨fun e he => register_command_of_error he c menu handler, fun d hd => ?_⟩
  obtain ⟨hunknown, hknown⟩ := register_command hc menu hd handler
  rw [hnames] at hunknown
  refine ⟨hunknown, fun hmenu => ?_⟩
  obtain ⟨id, hid⟩ := List.mem_iff_getElem?.1 ((hnames menu).2 hmenu)
  obtain ⟨front, commands, back, hall, rfl, happend⟩ := append_eq hid ⟨d, handler⟩
  rw [hknown _ hid, happend]
  exact ⟨front, commands, back, hall, (hc.index menu _).2 hid, rfl⟩

/-- Two menus, the second one asked for twice, a command that is put behind
another one in the second, and a completer and a filter that come again. -/
theorem register_of_registerAll_two_menus :
    let names : FileTree → Completer := fun _ _ => ["lab".toList]
    let all : Filter := fun _ => .copy
    let rs : List Registration := [.menu ['a'], .menu ['b'],
      .command ['b'] "back".toList Navigation.leave, .menu ['b'],
      .completer "host".toList names, .filter "host".toList all]
    let c := (start .default .empty).registerAll rs
    let stop : Description := ⟨"stop".toList, ⟨[.literal "stop".toList], [], none⟩⟩
    c.index ['b'] = some 1 ∧ .menu ['b'] ∈ rs ∧ .menu ['x'] ∉ rs ∧
      Description.parse "stop".toList = .ok stop ∧
      c.register (.menu ['b']) = (some (.duplicateMenu ['b']), c) ∧
      c.register (.command ['x'] "stop".toList Navigation.leave) =
        (some (.unknownMenu ['x']), c) ∧
      (∃ front commands back, c.shell.menus.all = front ++ ⟨['b'], commands⟩ :: back ∧
        c.index ['b'] = some front.length ∧
        c.register (.command ['b'] "stop".toList Navigation.leave) =
          (none, { c with
            shell.menus :=
              ⟨front ++ ⟨['b'], commands ++ [⟨stop, Navigation.leave⟩]⟩ :: back⟩ })) ∧
      c.shell.completers.names = ["host".toList] ∧
      c.register (.completer "host".toList names) =
        (some (.duplicateCompleter "host".toList), c) ∧
      c.shell.filters.names = ["host".toList] ∧
      c.register (.filter "host".toList all) = (some (.duplicateFilter "host".toList), c) ∧
      c.register (.filter "all".toList all) = (none, { c with
        shell.filters := ⟨c.shell.filters.entries ++ [("all".toList, all)]⟩ }) := by
  intro names all rs c stop
  have hmenu : .menu ['b'] ∈ rs := by simp [rs]
  have hunknown : .menu ['x'] ∉ rs := by simp [rs]
  have hstop : Description.parse "stop".toList = .ok stop := by
    simp only [stop]
    cbv
  obtain ⟨-, hnames, -, -, -, -, hmenus, hcommands, hcompleters, hfilters⟩ :=
    register_of_registerAll .default .empty rs
  have hcommand (menu : Text) := (hcommands menu "stop".toList Navigation.leave).2 stop hstop
  have hcompleter : c.shell.completers.names = ["host".toList] := by decide +kernel
  have hfilter : c.shell.filters.names = ["host".toList] := by decide +kernel
  have hall : "all".toList ∉ c.shell.filters.names := by
    rw [hfilter]
    decide
  exact ⟨by decide +kernel, hmenu, hunknown, hstop, (hmenus _).1 ((hnames _).2 hmenu),
    (hcommand _).1 hunknown, (hcommand _).2 hmenu, hcompleter,
    (hcompleters _ names).1 (by rw [hcompleter]; exact List.mem_singleton_self _), hfilter,
    (hfilters _ all).1 (by rw [hfilter]; exact List.mem_singleton_self _),
    (hfilters _ all).2 hall⟩

end Catalog

end MenuLine
