import Mathlib.Data.List.Induction
import TapeMachine.Proofs.FileSystem.Growth

/-!
# Making directories

A directory that is there is left alone (`makeDirectories_of_there`).  One that is missing below a
directory is made (`exists_makeDirectories_child`), and so are those above it
(`exists_makeDirectories`); nothing else changes (`Keeps`).
-/

namespace TapeMachine.FileSystem

variable {fs fs' fs'' : FileSystem} {p : Path} {q r : Place} {name : String}
  {names target : List String}

/-! ### What is kept -/

/-- Whatever a path leads to is still there, and it is as it was unless it is a directory on the way
to others. -/
def Keeps (target : List String) (fs fs' : FileSystem) : Prop :=
  ∀ path q, fs.locate path = .ok q → ∃ q', fs'.locate path = .ok q' ∧ q'.names = q.names ∧
    (q'.here = q.here ∨ q.names <+: target ∧ q.here.isDirectory ∧ q'.here.isDirectory)

theorem Keeps.refl (target : List String) (fs : FileSystem) : fs.Keeps target fs :=
  fun _ q hq => ⟨q, hq, rfl, .inl rfl⟩

theorem Keeps.trans (h : fs.Keeps target fs') (h' : fs'.Keeps target fs'') :
    fs.Keeps target fs'' := by
  intro path q hq
  obtain ⟨q', hq', hnames, hhere⟩ := h path q hq
  obtain ⟨q'', hq'', hnames', hhere'⟩ := h' path q' hq'
  refine ⟨q'', hq'', hnames'.trans hnames, ?_⟩
  rcases hhere with hhere | ⟨hway, hdirectory, hdirectory'⟩
  · rwa [hnames, hhere] at hhere'
  · refine .inr ⟨hway, hdirectory, ?_⟩
    rcases hhere' with hhere' | ⟨-, -, hdirectory''⟩
    · rwa [hhere']
    · exact hdirectory''

theorem Keeps.mono (h : fs.Keeps target fs') (hway : target <+: names) :
    fs.Keeps names fs' := by
  intro path q hq
  obtain ⟨q', hq', hnames, hhere⟩ := h path q hq
  exact ⟨q', hq', hnames, hhere.imp_right fun ⟨hp, hd⟩ => ⟨hp.trans hway, hd⟩⟩

theorem Gains.keeps (h : fs.Gains (target ++ [name]) fs') : fs.Keeps target fs' := by
  intro path q hq
  obtain ⟨q', hq', hgains⟩ := h.exists_locate hq
  refine ⟨q', hq', hgains.names, ?_⟩
  cases hgains.here with
  | within htarget hwithin =>
    refine .inr ⟨?_, hwithin.isDirectory⟩
    rcases List.prefix_concat_iff.1 ⟨_, htarget⟩ with he | hway
    · -- Nothing is gained at the very end.
      rw [he, List.append_right_eq_self] at htarget
      rw [htarget] at hwithin
      cases hwithin
    · exact hway
  | beside hbeside hhere => exact .inl hhere

/-! ### One directory -/

theorem makeDirectory_child (h : (p.child name).IsProper)
    (hshort : (p.child name).text.utf8ByteSize < maxPathBytes) :
    fs.makeDirectory (p.child name) = fs.reach p >>= fun q => (q.newDirectory name).map
      fun names => { fs with root := fs.root.put names FileTree.empty } := by
  have hlast : (p.child name).names.getLast? = some name := List.getLast?_concat
  have hparent : (p.child name).names.dropLast = p.names := List.dropLast_concat
  unfold makeDirectory
  rw [checkPath_text h, if_neg (not_le.2 hshort), hlast, hparent, startOf_child h]
  dsimp only
  unfold reach
  cases fs.startOf p.text <;> rfl

theorem newDirectory_eq_ok_iff (hname : name ≠ "..") :
    q.newDirectory name = .ok names ↔
      names = q.names ++ [name] ∧ q.here.lookUp name = .error .missing := by
  unfold Place.newDirectory
  rw [if_neg hname]
  cases hu : q.here.lookUp name with
  | ok u => simp
  | error f => cases f <;> simp [eq_comm]

/-- **A directory below one that is there** is made if nothing has its name, and all that changes is
that it is there. -/
theorem exists_makeDirectory (h : (p.child name).IsProper)
    (hshort : (p.child name).text.utf8ByteSize < maxPathBytes) (hname : name ≠ "..")
    (hq : fs.reach p = .ok q) (hmissing : q.here.lookUp name = .error .missing) :
    ∃ fs', fs.makeDirectory (p.child name) = .ok fs' ∧ fs.Gains (q.names ++ [name]) fs' := by
  obtain ⟨hdirectory, -, hnew⟩ := FileTree.lookUp_eq_missing_iff.1 hmissing
  refine ⟨{ fs with root := fs.root.put (q.names ++ [name]) FileTree.empty }, ?_, rfl, ?_⟩
  · rw [makeDirectory_child h hshort, hq, ok_bind,
      (newDirectory_eq_ok_iff hname).2 ⟨rfl, hmissing⟩, Except.map]
  · exact FileTree.gains_put (isIn_of_reach hq).here hdirectory hnew

/-- The directory in which another is made has an entry more, and the other is empty. -/
theorem Gains.exists_new (h : fs.Gains (q.names ++ [name]) fs') (hchild : (p.child name).IsProper)
    (hname : name ≠ "..") (hlength : name.utf8ByteSize ≤ FileTree.maxNameBytes)
    (hq : fs.reach p = .ok q) :
    (∃ q', fs'.reach p = .ok q' ∧ q'.names = q.names ∧
        q'.here = .directory (q.here.entries ++ [(name, .empty)])) ∧
      ∃ r, fs'.reach (p.child name) = .ok r ∧ r.names = q.names ++ [name] ∧ r.here = .empty := by
  obtain ⟨q', hq', hgains⟩ := h.exists_reach hq
  obtain ⟨hnew, hhere⟩ : q.here.entry? name = none ∧
      q'.here = .directory (q.here.entries ++ [(name, .empty)]) := by
    cases hgains.here with
    | @within rest htarget hwithin =>
      obtain rfl : rest = [name] := List.append_cancel_left htarget
      exact hwithin.of_singleton
    | beside hbeside h => exact absurd (List.prefix_append ..) hbeside
  have hentry : q'.here.lookUp name = .ok .empty := by
    have hput : FileTree.putEntry name .empty q.here.entries = q.here.entries ++ [(name, .empty)] :=
      FileTree.putEntry_new hnew
    rw [← hput] at hhere
    refine FileTree.lookUp_eq_ok_iff.2
      ⟨FileTree.isDirectory_of_eq hhere, hlength, name, rfl, ?_⟩
    rw [hhere, FileTree.entry?_putEntry, if_pos rfl]
  refine ⟨⟨q', hq', hgains.names, hhere⟩,
    ⟨q'.names ++ [name], .empty, (q'.names, q'.here) :: q'.above⟩, ?_, ?_, rfl⟩
  · rw [reach_child_of_reach hchild hname hq', hentry]
    rfl
  · rw [hgains.names]

/-! ### A directory and those above it -/

theorem exists_eq_child (h : p.names ≠ []) :
    ∃ (parent : Path) (name : String), p = parent.child name := by
  obtain ⟨slashes, names⟩ := p
  refine ⟨⟨slashes, names.dropLast⟩, names.getLast h, ?_⟩
  exact congrArg (Path.mk slashes) (List.dropLast_append_getLast h).symm

theorem directory?_isSome_iff :
    (fs.directory? p.text).isSome ↔ ∃ q, fs.locate p.text = .ok q ∧ q.here.isDirectory := by
  unfold directory?
  cases hlocate : fs.locate p.text with
  | error f => simp
  | ok q => cases hdirectory : q.here.isDirectory <;> simp [hdirectory]

theorem ensureDirectory_eq_ok_iff :
    fs.ensureDirectory p = .ok fs' ↔ fs.makeDirectory p = .ok fs' ∨
      (∃ f, fs.makeDirectory p = .error f) ∧
        (∃ q, fs.locate p.text = .ok q ∧ q.here.isDirectory) ∧ fs' = fs := by
  rw [← directory?_isSome_iff, ensureDirectory]
  cases hmake : fs.makeDirectory p with
  | ok fs₁ => simp
  | error f =>
    dsimp only
    split_ifs with hthere
    · constructor
      · exact fun h => .inr ⟨⟨f, rfl⟩, hthere, (Except.ok.inj h).symm⟩
      · rintro (h | ⟨-, -, rfl⟩)
        · cases h
        · rfl
    · constructor
      · exact nofun
      · rintro (h | ⟨-, h, -⟩)
        · cases h
        · exact absurd h hthere

/-- What is there already is not made. -/
theorem exists_makeDirectory_error (h : p.IsProper) (hq : fs.locate p.text = .ok q) :
    ∃ f, f ≠ .missing ∧ fs.makeDirectory p = .error f := by
  have hshort := length_text_lt_of_locate h hq
  by_cases hnames : p.names = []
  · refine ⟨.exists, nofun, ?_⟩
    rw [makeDirectory, checkPath_text h, if_neg (not_le.2 hshort), hnames]
    rfl
  obtain ⟨parent, name, rfl⟩ := exists_eq_child hnames
  have hreach := reach_of_locate h hq
  rw [reach_child h] at hreach
  obtain ⟨r, hr, henter⟩ := bind_eq_ok_iff.1 hreach
  rw [makeDirectory_child h hshort, hr, ok_bind]
  unfold Place.newDirectory
  split_ifs with hdots hdirectory
  · exact ⟨.exists, nofun, rfl⟩
  · exact ⟨.notADirectory, nofun, rfl⟩
  · rw [Place.enter_name h.of_child.2 hdots] at henter
    obtain ⟨u, hu, -⟩ := map_eq_ok_iff.1 henter
    rw [hu]
    exact ⟨.exists, nofun, rfl⟩

theorem makeDirectories_child :
    fs.makeDirectories (p.child name) = match fs.makeDirectory (p.child name) with
      | .error .missing => fs.makeDirectories p >>= fun fs => fs.ensureDirectory (p.child name)
      | _ => fs.ensureDirectory (p.child name) := by
  have hreverse : (p.child name).names.reverse = name :: p.names.reverse := List.reverse_concat
  have hpath : (⟨p.slashes, (name :: p.names.reverse).reverse⟩ : Path) = p.child name := by
    rw [List.reverse_cons, List.reverse_reverse]
    rfl
  have hensure := ensureAll.eq_2 fs p.slashes name p.names.reverse
  rw [hpath] at hensure
  rw [makeDirectories, hreverse]
  exact hensure

/-- **A directory that is there is left alone.** -/
theorem makeDirectories_of_there (h : p.IsProper) (hq : fs.locate p.text = .ok q)
    (hdirectory : q.here.isDirectory) : fs.makeDirectories p = .ok fs := by
  obtain ⟨f, hf, hmake⟩ := exists_makeDirectory_error h hq
  have hensure : fs.ensureDirectory p = .ok fs :=
    ensureDirectory_eq_ok_iff.2 (.inr ⟨⟨f, hmake⟩, ⟨q, hq, hdirectory⟩, rfl⟩)
  by_cases hnames : p.names = []
  · obtain ⟨slashes, names⟩ := p
    obtain rfl : names = [] := hnames
    exact hensure
  · obtain ⟨parent, name, rfl⟩ := exists_eq_child hnames
    rw [makeDirectories_child, hmake]
    cases f with
    | missing => exact absurd rfl hf
    | _ => exact hensure

theorem newDirectory_ne_missing : q.newDirectory name ≠ .error .missing := by
  unfold Place.newDirectory
  split_ifs with hname hdirectory
  · exact nofun
  · exact nofun
  · cases q.here.lookUp name with
    | ok u => exact nofun
    | error f => cases f <;> exact nofun

theorem makeDirectories_child_of_reach (h : (p.child name).IsProper) (hq : fs.reach p = .ok q) :
    fs.makeDirectories (p.child name) = fs.ensureDirectory (p.child name) := by
  have hthere : fs.makeDirectory (p.child name) ≠ .error .missing := by
    by_cases hshort : (p.child name).text.utf8ByteSize < maxPathBytes
    · rw [makeDirectory_child h hshort, hq, ok_bind]
      cases hnew : q.newDirectory name with
      | ok names => exact nofun
      | error f =>
        rintro he
        obtain rfl := Except.error.inj he
        exact newDirectory_ne_missing hnew
    · rw [makeDirectory, checkPath_text h, if_pos (not_lt.1 hshort)]
      exact nofun
  rw [makeDirectories_child]
  split
  · next hmissing => exact absurd hmissing hthere
  · rfl

theorem exists_makeDirectories_child (h : (p.child name).IsProper)
    (hshort : (p.child name).text.utf8ByteSize < maxPathBytes) (hname : name ≠ "..")
    (hq : fs.reach p = .ok q) (hmissing : q.here.lookUp name = .error .missing) :
    ∃ fs', fs.makeDirectories (p.child name) = .ok fs' ∧ fs.Gains (q.names ++ [name]) fs' := by
  obtain ⟨fs', hmake, hgains⟩ := exists_makeDirectory h hshort hname hq hmissing
  refine ⟨fs', ?_, hgains⟩
  rw [makeDirectories_child_of_reach h hq]
  exact ensureDirectory_eq_ok_iff.2 (.inl hmake)

theorem of_makeDirectory_child (h : (p.child name).IsProper) (hname : name ≠ "..")
    (hq : fs.reach p = .ok q) (hmake : fs.makeDirectory (p.child name) = .ok fs') :
    (p.child name).text.utf8ByteSize < maxPathBytes ∧ q.here.lookUp name = .error .missing := by
  have hshort : (p.child name).text.utf8ByteSize < maxPathBytes := by
    by_contra hlong
    rw [makeDirectory, checkPath_text h, if_pos (not_lt.1 hlong)] at hmake
    cases hmake
  rw [makeDirectory_child h hshort, hq, ok_bind] at hmake
  obtain ⟨names, hnew, -⟩ := map_eq_ok_iff.1 hmake
  exact ⟨hshort, ((newDirectory_eq_ok_iff hname).1 hnew).2⟩

theorem lookUp_of_locate_child (h : (p.child name).IsProper) (hname : name ≠ "..")
    (hq : fs.reach p = .ok q) (hr : fs.locate (p.child name).text = .ok r) :
    q.here.lookUp name = .ok r.here := by
  have hreach := reach_of_locate h hr
  rw [reach_child_of_reach h hname hq] at hreach
  obtain ⟨u, hu, rfl⟩ := map_eq_ok_iff.1 hreach
  exact hu

/-- **When a directory can be made below another**, or is there: its path and its name are not too
long, and nothing else has the name. -/
theorem makeDirectories_child_isOk_iff (h : (p.child name).IsProper) (hname : name ≠ "..")
    (hq : fs.reach p = .ok q) (hdirectory : q.here.isDirectory) :
    (∃ fs', fs.makeDirectories (p.child name) = .ok fs') ↔
      (p.child name).text.utf8ByteSize < maxPathBytes ∧
        name.utf8ByteSize ≤ FileTree.maxNameBytes ∧
        ∀ t, q.here.entry? name = some t → t.isDirectory := by
  constructor
  · rintro ⟨fs', hmake⟩
    rw [makeDirectories_child_of_reach h hq] at hmake
    rcases ensureDirectory_eq_ok_iff.1 hmake with hmake | ⟨-, ⟨r, hr, hdirectory'⟩, -⟩
    · obtain ⟨hshort, hmissing⟩ := of_makeDirectory_child h hname hq hmake
      obtain ⟨-, hlength, hentry⟩ := FileTree.lookUp_eq_missing_iff.1 hmissing
      exact ⟨hshort, hlength, fun t ht => absurd (ht.symm.trans hentry) nofun⟩
    · obtain ⟨-, hlength, s, hs, hentry⟩ :=
        FileTree.lookUp_eq_ok_iff.1 (lookUp_of_locate_child h hname hq hr)
      obtain rfl := Text.RawText.sound.inj hs
      refine ⟨length_text_lt_of_locate h hr, hlength, fun t ht => ?_⟩
      obtain rfl := Option.some.inj (ht.symm.trans hentry)
      exact hdirectory'
  · rintro ⟨hshort, hlength, hentry⟩
    cases ht : q.here.entry? name with
    | none =>
      have hmissing := FileTree.lookUp_eq_missing_iff.2 ⟨hdirectory, hlength, ht⟩
      obtain ⟨fs', hmake, -⟩ := exists_makeDirectories_child h hshort hname hq hmissing
      exact ⟨fs', hmake⟩
    | some t =>
      have hu : q.here.lookUp name = .ok t :=
        FileTree.lookUp_eq_ok_iff.2 ⟨hdirectory, hlength, name, rfl, ht⟩
      have hreach := reach_child_of_reach h hname hq
      rw [hu] at hreach
      exact ⟨fs, makeDirectories_of_there h (locate_text h hshort hreach (hentry t ht))
        (hentry t ht)⟩

/-! ### Several directories -/

/-- A name that a directory can have. -/
structure CanName (name : String) : Prop where
  not_up : name ≠ ".."
  length_le : name.utf8ByteSize ≤ FileTree.maxNameBytes

theorem lookUp_empty (h : CanName name) : FileTree.empty.lookUp name = .error .missing :=
  FileTree.lookUp_eq_missing_iff.2 ⟨rfl, h.length_le, rfl⟩

variable {slashes last : String} {rest : List String}

theorem mk_concat : (⟨slashes, names ++ name :: (rest ++ [last])⟩ : Path)
    = Path.child ⟨slashes, names ++ name :: rest⟩ last := by
  simp [Path.child]

/-- Nothing is below what is missing. -/
theorem reach_eq_missing (h : (⟨slashes, names ++ name :: rest⟩ : Path).IsProper)
    (hname : name ≠ "..") (hq : fs.reach ⟨slashes, names⟩ = .ok q)
    (hmissing : q.here.lookUp name = .error .missing) :
    fs.reach ⟨slashes, names ++ name :: rest⟩ = .error .missing := by
  induction rest using List.reverseRecOn with
  | nil =>
    change (Path.child ⟨slashes, names⟩ name).IsProper at h
    show fs.reach (Path.child ⟨slashes, names⟩ name) = _
    rw [reach_child_of_reach h hname hq, hmissing]
    rfl
  | append_singleton rest last ih =>
    rw [mk_concat] at h ⊢
    rw [reach_child h, ih h.of_child.1]
    rfl

/-- **Directories that are missing are made**, one below the other. -/
theorem exists_makeDirectories (h : (⟨slashes, names ++ name :: rest⟩ : Path).IsProper)
    (hshort : (⟨slashes, names ++ name :: rest⟩ : Path).text.utf8ByteSize < maxPathBytes)
    (hnames : ∀ n ∈ name :: rest, CanName n) (hq : fs.reach ⟨slashes, names⟩ = .ok q)
    (hmissing : q.here.lookUp name = .error .missing) :
    ∃ fs' r, fs.makeDirectories ⟨slashes, names ++ name :: rest⟩ = .ok fs' ∧
      fs'.reach ⟨slashes, names ++ name :: rest⟩ = .ok r ∧ r.here = .empty ∧
      fs.Keeps r.names fs' := by
  have hname := hnames name List.mem_cons_self
  induction rest using List.reverseRecOn with
  | nil =>
    change (Path.child ⟨slashes, names⟩ name).IsProper at h
    change (Path.child ⟨slashes, names⟩ name).text.utf8ByteSize < _ at hshort
    obtain ⟨fs', hmake, hgains⟩ :=
      exists_makeDirectories_child h hshort hname.not_up hq hmissing
    obtain ⟨-, r, hr, hrnames, hempty⟩ :=
      hgains.exists_new h hname.not_up hname.length_le hq
    refine ⟨fs', r, hmake, hr, hempty, hgains.keeps.mono ?_⟩
    rw [hrnames]
    exact List.prefix_append ..
  | append_singleton rest last ih =>
    have hlast : CanName last := hnames last (by simp)
    rw [mk_concat] at h hshort ⊢
    have habove := reach_eq_missing h.of_child.1 hname.not_up hq hmissing
    obtain ⟨fs₁, r₁, hmake₁, hr₁, hempty₁, hkeeps₁⟩ :=
      ih h.of_child.1 ((length_text_le h).trans_lt hshort) fun n hn => hnames n (by
        rw [← List.cons_append]
        exact List.mem_append_left _ hn)
    obtain ⟨fs₂, hmake₂, hgains⟩ := exists_makeDirectory h hshort hlast.not_up hr₁
      (hempty₁.symm ▸ lookUp_empty hlast)
    obtain ⟨-, r₂, hr₂, hrnames, hempty₂⟩ :=
      hgains.exists_new h hlast.not_up hlast.length_le hr₁
    have hmissing₂ : fs.makeDirectory (Path.child ⟨slashes, names ++ name :: rest⟩ last)
        = .error .missing := by
      rw [makeDirectory_child h hshort, habove]
      rfl
    refine ⟨fs₂, r₂, ?_, hr₂, hempty₂, ?_⟩
    · rw [makeDirectories_child, hmissing₂]
      dsimp only
      rw [hmake₁, ok_bind]
      exact ensureDirectory_eq_ok_iff.2 (.inl hmake₂)
    · rw [hrnames]
      exact (hkeeps₁.trans hgains.keeps).mono (List.prefix_append ..)

end TapeMachine.FileSystem
