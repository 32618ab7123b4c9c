import TapeMachine.Proofs.FileSystem.Path

/-!
# What a new directory changes

A tree gains an empty directory where nothing was (`FileTree.Gains`, `FileTree.gains_put`).
Whatever a path leads to is still there afterwards, and it is as it was unless the new directory is
somewhere in it (`Gains.exists_reach`, `Gains.exists_locate`).
-/

namespace TapeMachine

open TapeMachine.Text

/-! ### Trees -/

namespace FileTree

variable {t t' u : FileTree} {es : List (String × FileTree)} {name : String} {names : List String}

theorem isDirectory_of_eq (h : t = directory es) : t.isDirectory := h ▸ rfl

theorem entry?_eq_none_iff : t.entry? name = none ↔ ∀ e ∈ t.entries, e.1 ≠ name := by
  unfold entry?
  simp

theorem mem_entries_of_eq_some (h : t.entry? name = some u) : (name, u) ∈ t.entries := by
  obtain ⟨e, he, rfl⟩ := Option.map_eq_some_iff.1 h
  have hname := List.find?_some he
  obtain rfl : e.1 = name := beq_iff_eq.1 hname
  exact List.mem_of_find?_eq_some he

theorem entry?_cons (e : String × FileTree) (name : String) :
    entry? (directory (e :: es)) name
      = if e.1 = name then some e.2 else entry? (directory es) name := by
  unfold entry? entries
  dsimp only
  rw [List.find?_cons]
  by_cases h : e.1 = name
  · rw [if_pos h, beq_iff_eq.2 h]
    rfl
  · rw [if_neg h, beq_eq_false_iff_ne.2 h]

theorem entry?_putEntry (name' : String) :
    entry? (directory (putEntry name t es)) name'
      = if name = name' then some t else entry? (directory es) name' := by
  induction es with
  | nil => rw [putEntry, entry?_cons]
  | cons e es ih =>
    rw [putEntry]
    by_cases he : e.1 = name
    · rw [if_pos he, entry?_cons, entry?_cons, he]
      split_ifs <;> rfl
    · rw [if_neg he, entry?_cons, entry?_cons, ih]
      by_cases h : e.1 = name'
      · have hne : name ≠ name' := fun hn => he (h.trans hn.symm)
        rw [if_pos h, if_neg hne, if_pos h]
      · rw [if_neg h, if_neg h]

theorem putEntry_new (h : entry? (directory es) name = none) :
    putEntry name t es = es ++ [(name, t)] := by
  rw [entry?_eq_none_iff] at h
  induction es with
  | nil => rfl
  | cons e es ih =>
    rw [putEntry, if_neg (h e List.mem_cons_self), ih fun e he => h e (List.mem_cons_of_mem _ he)]
    rfl

theorem lookUp_eq_ok_iff {name : RawText} :
    t.lookUp name = .ok u ↔ t.isDirectory ∧ name.nameLength ≤ maxNameBytes ∧
      ∃ s, name = .sound s ∧ t.entry? s = some u := by
  unfold lookUp
  cases hd : t.isDirectory with
  | false => simp
  | true =>
    by_cases hlong : maxNameBytes < name.nameLength
    · simp [hlong]
    · cases name with
      | sound s =>
        cases he : t.entry? s <;> simp [hlong, not_lt.1 hlong, RawText.string?, he]
      | broken ps => simp [hlong, RawText.string?]

theorem lookUp_eq_missing_iff :
    t.lookUp name = .error .missing ↔
      t.isDirectory ∧ name.utf8ByteSize ≤ maxNameBytes ∧ t.entry? name = none := by
  have hlength : (RawText.sound name).nameLength = name.utf8ByteSize := rfl
  unfold lookUp
  rw [hlength]
  cases hd : t.isDirectory with
  | false => simp
  | true =>
    by_cases hlong : maxNameBytes < name.utf8ByteSize
    · simp [hlong]
    · cases he : t.entry? name <;> simp [hlong, not_lt.1 hlong, RawText.string?, he]

/-- A tree gains an empty directory at the end of a row of names, where nothing was. -/
inductive Gains : List String → FileTree → FileTree → Prop
  | here {es : List (String × FileTree)} {name : String}
      (hnew : entry? (directory es) name = none) :
      Gains [name] (directory es) (directory (es ++ [(name, empty)]))
  | under {es : List (String × FileTree)} {name : String} {names : List String} {u u' : FileTree}
      (hthere : entry? (directory es) name = some u) (h : Gains names u u') :
      Gains (name :: names) (directory es) (directory (putEntry name u' es))

theorem gains_put (hdescend : t.descend names = .ok u) (hu : u.isDirectory)
    (hnew : u.entry? name = none) :
    Gains (names ++ [name]) t (t.put (names ++ [name]) empty) := by
  induction names generalizing t with
  | nil =>
    obtain rfl : t = u := Except.ok.inj hdescend
    cases t with
    | file bytes => cases hu
    | directory es =>
      show Gains [name] _ (directory (putEntry name empty es))
      rw [putEntry_new hnew]
      exact .here hnew
  | cons first names ih =>
    obtain ⟨v, hv, hrest⟩ := bind_eq_ok_iff.1 hdescend
    obtain ⟨hdirectory, -, s, hs, hentry⟩ := lookUp_eq_ok_iff.1 hv
    obtain rfl := RawText.sound.inj hs
    cases t with
    | file bytes => cases hdirectory
    | directory es =>
      rw [List.cons_append, put, hentry]
      exact .under hentry (ih hrest)

theorem Gains.isDirectory (h : t.Gains names t') : t.isDirectory ∧ t'.isDirectory := by
  cases h with
  | here => exact ⟨rfl, rfl⟩
  | under => exact ⟨rfl, rfl⟩

theorem Gains.of_singleton (h : t.Gains [name] t') :
    t.entry? name = none ∧ t' = directory (t.entries ++ [(name, empty)]) := by
  cases h with
  | here hnew => exact ⟨hnew, rfl⟩
  | under hthere h => cases h

/-- What becomes of the tree at the end of some names if the whole gains a directory at the end of
others. -/
inductive GainsAt (target names : List String) (t t' : FileTree) : Prop
  | within {rest : List String} (htarget : names ++ rest = target) (h : t.Gains rest t')
  | beside (hbeside : ¬ names <+: target) (h : t' = t)

theorem not_prefix_of_ne {s s' : String} {rest : List String} (h : s' ≠ s) :
    ¬ names ++ [s'] <+: names ++ s :: rest := by
  rw [List.prefix_append_right_inj, List.cons_prefix_cons]
  exact fun hs => h hs.1

theorem GainsAt.lookUp {target : List String} {name : RawText} (h : t.GainsAt target names t')
    (hu : t.lookUp name = .ok u) :
    ∃ u', t'.lookUp name = .ok u' ∧ u.GainsAt target (names ++ [name.printed]) u' := by
  obtain ⟨hdirectory, hlength, s', rfl, hentry⟩ := lookUp_eq_ok_iff.1 hu
  cases h with
  | within htarget h =>
    cases h with
    | @here es s hnew =>
      have hne : s' ≠ s := by
        rintro rfl
        rw [hnew] at hentry
        cases hentry
      refine ⟨u, lookUp_eq_ok_iff.2 ⟨rfl, hlength, s', rfl, ?_⟩, .beside ?_ rfl⟩
      · rw [← putEntry_new hnew, entry?_putEntry, if_neg hne.symm, hentry]
      · rw [← htarget]
        exact not_prefix_of_ne hne
    | @under es s rest v v' hthere h =>
      by_cases hs : s = s'
      · subst hs
        obtain rfl : v = u := Option.some.inj (hthere.symm.trans hentry)
        have hrest : (names ++ [s]) ++ rest = target := by
          rw [← htarget, List.append_assoc]
          rfl
        refine ⟨v', lookUp_eq_ok_iff.2 ⟨rfl, hlength, s, rfl, ?_⟩, .within hrest h⟩
        rw [entry?_putEntry, if_pos rfl]
      · refine ⟨u, lookUp_eq_ok_iff.2 ⟨rfl, hlength, s', rfl, ?_⟩, .beside ?_ rfl⟩
        · rw [entry?_putEntry, if_neg hs, hentry]
        · rw [← htarget]
          exact not_prefix_of_ne (Ne.symm hs)
  | beside hbeside h =>
    rw [h]
    exact ⟨u, hu, .beside (fun hlong => hbeside ((List.prefix_append ..).trans hlong)) rfl⟩

theorem GainsAt.isDirectory {target : List String} (h : t.GainsAt target names t') :
    t'.isDirectory = t.isDirectory := by
  cases h with
  | within htarget h => rw [h.isDirectory.1, h.isDirectory.2]
  | beside hbeside h => rw [h]

end FileTree

/-! ### Places -/

namespace FileSystem

variable {target : List String} {q q' r : Place}

/-- What becomes of a place if the tree gains a directory at the end of some names. -/
structure Place.Gains (target : List String) (q q' : Place) : Prop where
  names : q'.names = q.names
  here : q.here.GainsAt target q.names q'.here
  above : List.Forall₂ (fun a a' => a'.1 = a.1 ∧ a.2.GainsAt target a.1 a'.2) q.above q'.above

theorem Place.Gains.parent (h : q.Gains target q') : q.parent.Gains target q'.parent := by
  obtain ⟨names, here, above⟩ := q
  obtain ⟨names', here', above'⟩ := q'
  obtain ⟨hnames, hhere, habove⟩ := h
  cases habove with
  | nil => exact ⟨hnames, hhere, .nil⟩
  | @cons a a' above above' ha habove => exact ⟨ha.1, ha.2, habove⟩

theorem Place.Gains.enter {name : RawText} (h : q.Gains target q') (hr : q.enter name = .ok r) :
    ∃ r', q'.enter name = .ok r' ∧ r.Gains target r' := by
  unfold Place.enter at hr ⊢
  rw [h.here.isDirectory]
  split_ifs at hr ⊢ with hdots hfile hdot
  · obtain rfl := Except.ok.inj hr
    exact ⟨q', rfl, h⟩
  · obtain rfl := Except.ok.inj hr
    exact ⟨q'.parent, rfl, h.parent⟩
  · obtain ⟨u, hu, rfl⟩ := map_eq_ok_iff.1 hr
    obtain ⟨u', hu', hgains⟩ := h.here.lookUp hu
    refine ⟨_, map_eq_ok_iff.2 ⟨u', hu', rfl⟩, ?_, hgains, .cons ⟨h.names, h.here⟩ h.above⟩
    show q'.names ++ _ = q.names ++ _
    rw [h.names]

theorem Place.Gains.follow {names : List RawText} (h : q.Gains target q')
    (hr : q.follow names = .ok r) : ∃ r', q'.follow names = .ok r' ∧ r.Gains target r' := by
  induction names generalizing q q' with
  | nil =>
    obtain rfl : q = r := Except.ok.inj hr
    exact ⟨q', rfl, h⟩
  | cons name names ih =>
    obtain ⟨s, hs, hr⟩ := bind_eq_ok_iff.1 hr
    obtain ⟨s', hs', hgains⟩ := h.enter hs
    obtain ⟨r', hr', hgains'⟩ := ih hgains hr
    exact ⟨r', bind_eq_ok_iff.2 ⟨s', hs', hr'⟩, hgains'⟩

/-! ### File systems -/

/-- A file system gains a directory at the end of some names from the root. -/
structure Gains (target : List String) (fs fs' : FileSystem) : Prop where
  here : fs'.here = fs.here
  root : fs.root.Gains target fs'.root

variable {fs fs' : FileSystem} {p : Path} {name : String}

theorem Gains.exists_startOf {path : RawText} (h : fs.Gains target fs')
    (hq : fs.startOf path = .ok q) : ∃ q', fs'.startOf path = .ok q' ∧ q.Gains target q' := by
  have hroot : (Place.root fs.root).Gains target (Place.root fs'.root) :=
    ⟨rfl, .within (List.nil_append target) h.root, .nil⟩
  unfold startOf
  rw [h.here]
  exact hroot.follow hq

/-- **What the names of a path lead to is still there.** -/
theorem Gains.exists_reach (h : fs.Gains target fs') (hq : fs.reach p = .ok q) :
    ∃ q', fs'.reach p = .ok q' ∧ q.Gains target q' := by
  obtain ⟨start, hstart, hq⟩ := bind_eq_ok_iff.1 hq
  obtain ⟨start', hstart', hgains⟩ := h.exists_startOf hstart
  obtain ⟨q', hq', hgains'⟩ := hgains.follow hq
  exact ⟨q', bind_eq_ok_iff.2 ⟨start', hstart', hq'⟩, hgains'⟩

/-- **What a path leads to is still there.** -/
theorem Gains.exists_locate {path : RawText} (h : fs.Gains target fs')
    (hq : fs.locate path = .ok q) : ∃ q', fs'.locate path = .ok q' ∧ q.Gains target q' := by
  unfold locate at hq ⊢
  cases hcheck : checkPath path with
  | error f =>
    rw [hcheck] at hq
    cases hq
  | ok =>
    rw [hcheck] at hq
    obtain ⟨start, hstart, hq⟩ := bind_eq_ok_iff.1 hq
    obtain ⟨r, hr, hq⟩ := bind_eq_ok_iff.1 hq
    obtain ⟨start', hstart', hgains⟩ := h.exists_startOf hstart
    obtain ⟨r', hr', hgains'⟩ := hgains.follow hr
    split_ifs at hq with hfile
    obtain rfl : r = q := Except.ok.inj hq
    refine ⟨r', ?_, hgains'⟩
    dsimp only
    rw [hstart', ok_bind, hr', ok_bind, hgains'.here.isDirectory, if_neg hfile]
    rfl

/-! ### Places of a tree -/

/-- A place is one of a tree, and so are those above it. -/
structure Place.IsIn (root : FileTree) (q : Place) : Prop where
  here : root.descend q.names = .ok q.here
  above : ∀ a ∈ q.above, root.descend a.1 = .ok a.2

theorem descend_concat {root t u : FileTree} {names : List String}
    (ht : root.descend names = .ok t) (hu : t.lookUp name = .ok u) :
    root.descend (names ++ [name]) = .ok u := by
  induction names generalizing root with
  | nil =>
    obtain rfl : root = t := Except.ok.inj ht
    exact bind_eq_ok_iff.2 ⟨u, hu, rfl⟩
  | cons first names ih =>
    obtain ⟨v, hv, ht⟩ := bind_eq_ok_iff.1 ht
    exact bind_eq_ok_iff.2 ⟨v, hv, ih ht⟩

theorem Place.IsIn.enter {root : FileTree} {name : RawText} (h : q.IsIn root)
    (hr : q.enter name = .ok r) : r.IsIn root := by
  unfold Place.enter at hr
  split_ifs at hr with hdots hfile hdot
  · obtain rfl := Except.ok.inj hr
    exact h
  · obtain rfl := Except.ok.inj hr
    obtain ⟨names, here, above⟩ := q
    cases above with
    | nil => exact h
    | cons a above =>
      exact ⟨h.above a List.mem_cons_self, fun b hb => h.above b (List.mem_cons_of_mem _ hb)⟩
  · obtain ⟨u, hu, rfl⟩ := map_eq_ok_iff.1 hr
    obtain ⟨-, -, s, rfl, -⟩ := FileTree.lookUp_eq_ok_iff.1 hu
    refine ⟨descend_concat h.here hu, fun a ha => ?_⟩
    rcases List.mem_cons.1 ha with rfl | ha
    · exact h.here
    · exact h.above a ha

theorem Place.IsIn.follow {root : FileTree} {names : List RawText} (h : q.IsIn root)
    (hr : q.follow names = .ok r) : r.IsIn root := by
  induction names generalizing q with
  | nil =>
    obtain rfl : q = r := Except.ok.inj hr
    exact h
  | cons name names ih =>
    obtain ⟨s, hs, hr⟩ := bind_eq_ok_iff.1 hr
    exact ih (h.enter hs) hr

theorem isIn_of_reach (h : fs.reach p = .ok q) : q.IsIn fs.root := by
  obtain ⟨start, hstart, hfollow⟩ := bind_eq_ok_iff.1 h
  have hroot : (Place.root fs.root).IsIn fs.root := ⟨rfl, nofun⟩
  exact (hroot.follow hstart).follow hfollow

end FileSystem

end TapeMachine
