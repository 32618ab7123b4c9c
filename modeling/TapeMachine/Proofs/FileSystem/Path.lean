import Mathlib.Data.String.Basic
import TapeMachine.FileSystem
import TapeMachine.Proofs.Result

/-!
# Paths and their texts

The text of a path (`Path.IsProper`, which is what `Path.ofText` makes) is split back into its names
(`namesOf_text`), so to look it up is to follow the names from where the path starts (`reach`,
`locate_text`), and a name more is a step more (`reach_child`).
-/

namespace TapeMachine.FileSystem

open TapeMachine.Text

variable {fs : FileSystem} {p : Path} {q : Place} {name : String} {names : List String}

/-! ### Splitting -/

/-- Cutting at a slash is cutting at a character. -/
theorem splitOnAux_slash (s : String) (b i : String.Pos.Raw) (acc : List String) :
    String.splitOnAux s "/" b i 0 acc = String.splitAux s (· == '/') b i acc := by
  fun_induction String.splitAux s (· == '/') b i acc with
  | case1 b i acc hend => rw [String.splitOnAux, if_pos hend]
  | case2 b i acc hend _ hslash next ih =>
    -- The slash is one byte long, so what comes before it ends where it begins.
    have hbegins : next.unoffsetBy (String.Pos.Raw.next "/" 0) = i := by
      have hone : (String.Pos.Raw.next "/" 0).byteIdx = 1 := by decide
      have hsize : (i.get s).utf8Size = 1 := by
        rw [beq_iff_eq.1 hslash]
        decide
      apply String.Pos.Raw.ext
      show i.byteIdx + (i.get s).utf8Size - _ = i.byteIdx
      omega
    rw [String.splitOnAux, if_neg hend, if_pos (by exact hslash)]
    dsimp only
    rw [if_pos (by decide), hbegins]
    exact ih
  | case3 b i acc hend _ hslash ih =>
    rw [String.splitOnAux, if_neg hend, if_neg (by exact hslash)]
    exact ih

theorem splitOn_slash (s : String) :
    s.splitOn "/" = (s.toList.splitOn '/').map String.ofList := by
  rw [String.splitOn, if_neg (by decide), splitOnAux_slash, List.splitOn_eq_splitOnP]
  exact String.splitToList_of_valid s _

/-- A name that stands in a path: `.` does not, since it leads nowhere else. -/
structure IsName (name : String) : Prop where
  ne_empty : name ≠ ""
  ne_dot : name ≠ "."
  no_slash : '/' ∉ name.toList

theorem splitPath_slash_append (s : String) : splitPath ("/" ++ s) = splitPath s := by
  have hlist : ("/" ++ s).toList = [] ++ '/' :: s.toList := String.toList_append
  unfold splitPath
  rw [splitOn_slash, splitOn_slash, hlist, List.splitOn_append_cons_self]
  rfl

theorem splitPath_intercalate (h : ∀ name ∈ names, IsName name) :
    splitPath ("/".intercalate names) = names := by
  rcases eq_or_ne names [] with rfl | hne
  · unfold splitPath
    rw [splitOn_slash]
    decide
  have hslash : ∀ l ∈ names.map String.toList, '/' ∉ l := by
    intro l hl
    obtain ⟨name, hname, rfl⟩ := List.mem_map.1 hl
    exact (h name hname).no_slash
  have hlist : ("/".intercalate names).toList = ['/'].intercalate (names.map String.toList) :=
    String.toList_intercalate
  have hback : (names.map String.toList).map String.ofList = names := by
    simp
  have hkept : names.filter (· ≠ "") = names := by
    rw [List.filter_eq_self]
    exact fun name hname => decide_eq_true (h name hname).ne_empty
  unfold splitPath
  rw [splitOn_slash, hlist, List.splitOn_intercalate '/' hslash (by simpa using hne), hback, hkept]

/-! ### Proper paths -/

/-- A path as it is made of a text. -/
structure Path.IsProper (p : Path) : Prop where
  slashes : p.slashes = "" ∨ p.slashes = "/" ∨ p.slashes = "//"
  names : ∀ name ∈ p.names, IsName name

theorem no_slash_of_mem_splitOn {cs : List Char} {l : List Char} (h : l ∈ cs.splitOn '/') :
    '/' ∉ l := by
  induction cs generalizing l with
  | nil => simp_all
  | cons c cs ih =>
    rw [List.splitOn_cons_eq_if_modifyHead] at h
    split_ifs at h with hc
    · rcases List.mem_cons.1 h with rfl | h
      · exact List.not_mem_nil
      · exact ih h
    · obtain ⟨first, rest, hsplit⟩ := List.exists_cons_of_ne_nil (List.splitOn_ne_nil '/' cs)
      rw [hsplit, List.modifyHead_cons] at h
      rw [hsplit] at ih
      rcases List.mem_cons.1 h with rfl | h
      · have hfirst := ih List.mem_cons_self
        have hne : '/' ≠ c := fun he => hc (beq_iff_eq.2 he.symm)
        exact fun hmem => (List.mem_cons.1 hmem).elim hne hfirst
      · exact ih (List.mem_cons_of_mem _ h)

theorem Path.isProper_ofText (text : String) : (Path.ofText text).IsProper := by
  constructor
  · show leadingSlashes text = "" ∨ leadingSlashes text = "/" ∨ leadingSlashes text = "//"
    unfold leadingSlashes
    split
    · exact .inl rfl
    · exact .inr (.inr rfl)
    · exact .inr (.inl rfl)
  · intro name hname
    obtain ⟨hname, hdot⟩ := List.mem_filter.1 hname
    obtain ⟨hname, hempty⟩ := List.mem_filter.1 hname
    rw [splitOn_slash] at hname
    obtain ⟨l, hl, rfl⟩ := List.mem_map.1 hname
    refine ⟨of_decide_eq_true hempty, of_decide_eq_true hdot, ?_⟩
    rw [String.toList_ofList]
    exact no_slash_of_mem_splitOn hl

namespace Path.IsProper

theorem child (h : p.IsProper) (hname : IsName name) : (p.child name).IsProper := by
  refine ⟨h.slashes, fun n hn => ?_⟩
  rcases List.mem_append.1 hn with hn | hn
  · exact h.names n hn
  · obtain rfl := List.mem_singleton.1 hn
    exact hname

theorem of_child (h : (p.child name).IsProper) : p.IsProper ∧ IsName name := by
  refine ⟨⟨h.slashes, fun n hn => h.names n (List.mem_append_left _ hn)⟩, ?_⟩
  exact h.names name (List.mem_append_right _ List.mem_cons_self)

end Path.IsProper

/-! ### Texts -/

theorem intercalate_ne_empty (h : ∀ name ∈ names, IsName name) (hne : names ≠ []) :
    "/".intercalate names ≠ "" := by
  intro he
  have hsplit := splitPath_intercalate h
  rw [he, ← String.intercalate_nil (s := "/"), splitPath_intercalate (by simp)] at hsplit
  exact hne hsplit.symm

/-- The path that leads nowhere is shown as `.`. -/
theorem text_eq (h : p.IsProper) :
    p.text = if p.slashes = "" ∧ p.names = [] then "." else
      p.slashes ++ "/".intercalate p.names := by
  unfold Path.text
  dsimp only
  by_cases hempty : p.slashes = "" ∧ p.names = []
  · rw [if_pos hempty, hempty.1, hempty.2]
    decide
  · have hne : p.slashes ++ "/".intercalate p.names ≠ "" := by
      rw [Ne, String.append_eq_empty_iff]
      rintro ⟨hslashes, hnames⟩
      exact hempty ⟨hslashes, by_contra fun hne => intercalate_ne_empty h.names hne hnames⟩
    rw [if_neg hempty, if_neg (by simpa using hne)]

theorem splitPath_text (h : p.IsProper) (hne : ¬ (p.slashes = "" ∧ p.names = [])) :
    splitPath p.text = p.names := by
  rw [text_eq h, if_neg hne]
  rcases h.slashes with hs | hs | hs
  · rw [hs, String.empty_append, splitPath_intercalate h.names]
  · rw [hs, splitPath_slash_append, splitPath_intercalate h.names]
  · rw [hs, show "//" = "/" ++ "/" by decide, String.append_assoc, splitPath_slash_append,
      splitPath_slash_append, splitPath_intercalate h.names]

theorem namesOf_text (h : p.IsProper) (hne : ¬ (p.slashes = "" ∧ p.names = [])) :
    namesOf p.text = p.names.map .sound := by
  rw [namesOf, splitPath_text h hne]

theorem namesOf_dot : namesOf "." = [.sound "."] := by
  have hsplit : splitPath "." = ["."] := by
    unfold splitPath
    rw [splitOn_slash]
    decide
  rw [namesOf, hsplit]
  rfl

theorem head?_intercalate (h : ∀ name ∈ names, IsName name) :
    ("/".intercalate names).toList.head? ≠ some '/' := by
  rw [String.toList_intercalate]
  match names, h with
  | [], _ => simp
  | name :: rest, h =>
    have hname := h name List.mem_cons_self
    have hhead : name.toList.head? ≠ some '/' := fun hc =>
      hname.no_slash (List.mem_of_mem_head? hc)
    obtain ⟨c, cs, hcs⟩ := List.exists_cons_of_ne_nil
      (show name.toList ≠ [] by simpa using hname.ne_empty)
    rw [hcs] at hhead
    cases rest with
    | nil => simpa [hcs] using hhead
    | cons next rest => simpa [hcs] using hhead

theorem isAbsolute_sound (s : String) :
    isAbsolute (.sound s) = decide (s.toList.head? = some '/') := by
  unfold isAbsolute
  rw [RawText.points_sound, List.head?_map]
  cases s.toList.head? <;> simp [slash]

/-- **A path starts at the root if and only if there are slashes before it.** -/
theorem isAbsolute_text (h : p.IsProper) : isAbsolute p.text = decide (p.slashes ≠ "") := by
  rw [isAbsolute_sound, text_eq h]
  by_cases hempty : p.slashes = "" ∧ p.names = []
  · rw [if_pos hempty, hempty.1]
    decide
  · rw [if_neg hempty]
    rcases h.slashes with hs | hs | hs
    · rw [hs, String.empty_append]
      simpa using head?_intercalate h.names
    · rw [hs]
      simp
    · rw [hs]
      simp

theorem startOf_child (h : (p.child name).IsProper) :
    fs.startOf (p.child name).text = fs.startOf p.text := by
  unfold startOf
  rw [isAbsolute_text h, isAbsolute_text h.of_child.1]
  rfl

/-! ### Lengths -/

theorem text_ne_empty (h : p.IsProper) : p.text ≠ "" := by
  rw [text_eq h]
  split_ifs with hempty
  · decide
  · rw [Ne, String.append_eq_empty_iff]
    rintro ⟨hslashes, hnames⟩
    exact hempty ⟨hslashes, by_contra fun hne => intercalate_ne_empty h.names hne hnames⟩

theorem checkPath_text (h : p.IsProper) :
    checkPath p.text
      = if maxPathBytes ≤ p.text.utf8ByteSize then .error .nameTooLong else .ok () := by
  have hne : (RawText.sound p.text).isEmpty = false := by
    rw [RawText.isEmpty, RawText.points_sound]
    simpa using text_ne_empty h
  unfold checkPath
  rw [hne]
  rfl

theorem text_child (h : (p.child name).IsProper) :
    (p.child name).text
      = if p.names = [] then p.slashes ++ name else p.text ++ ("/" ++ name) := by
  have hnot : ¬ ((p.child name).slashes = "" ∧ (p.child name).names = []) := by
    simp [Path.child]
  rw [text_eq h, if_neg hnot, Path.child]
  split_ifs with hnames
  · rw [hnames, List.nil_append, String.intercalate_singleton]
  · rw [text_eq h.of_child.1, if_neg fun he => hnames he.2,
      String.intercalate_append_of_ne_nil hnames (List.cons_ne_nil name []),
      String.intercalate_singleton]
    simp only [String.append_assoc]

/-- A name makes a text no shorter. -/
theorem length_text_le (h : (p.child name).IsProper) :
    p.text.utf8ByteSize ≤ (p.child name).text.utf8ByteSize := by
  have hpos : 0 < name.utf8ByteSize :=
    Nat.pos_of_ne_zero (mt String.utf8ByteSize_eq_zero_iff.1 h.of_child.2.ne_empty)
  rw [text_child h]
  split_ifs with hnames
  · rw [text_eq h.of_child.1, hnames, String.intercalate_nil, String.append_empty,
      String.utf8ByteSize_append]
    split_ifs with hempty
    · exact Nat.le_add_left_of_le hpos
    · exact Nat.le_add_right _ _
  · rw [String.utf8ByteSize_append]
    exact Nat.le_add_right _ _

/-! ### Characters -/

theorem hasNul_sound (s : String) : hasNul (.sound s) = decide ('\x00' ∈ s.toList) := by
  unfold hasNul
  rw [RawText.points_sound, Bool.eq_iff_iff, List.contains_iff_mem, decide_eq_true_iff]
  constructor
  · intro hmem
    obtain ⟨c, hc, he⟩ := List.mem_map.1 hmem
    obtain rfl := CodePoint.char.inj he
    exact hc
  · exact List.mem_map_of_mem

theorem hasNul_child (h : (p.child name).IsProper) (hp : hasNul p.text = false)
    (hname : '\x00' ∉ name.toList) : hasNul (p.child name).text = false := by
  have hslashes : '\x00' ∉ p.slashes.toList := by
    rcases h.slashes with hs | hs | hs
    all_goals
      rw [show p.slashes = _ from hs]
      decide
  rw [hasNul_sound, decide_eq_false_iff_not] at hp ⊢
  rw [text_child h]
  split_ifs with hnames
  · simp [hslashes, hname]
  · simp [hp, hname]

/-! ### Looking up -/

/-- What the names of a path lead to. -/
def reach (fs : FileSystem) (p : Path) : Except FileTree.Fault Place :=
  fs.startOf p.text >>= fun q => q.follow (p.names.map .sound)

theorem reach_child (h : (p.child name).IsProper) :
    fs.reach (p.child name) = fs.reach p >>= fun q => q.enter name := by
  have hnames : (p.child name).names.map RawText.sound
      = p.names.map .sound ++ [RawText.sound name] := List.map_append
  unfold reach
  rw [startOf_child h, hnames]
  cases fs.startOf p.text with
  | error f => rfl
  | ok q =>
    show (q.follow _ : Except _ _) = q.follow _ >>= _
    unfold Place.follow
    rw [List.foldlM_append]
    congr 1
    funext q'
    rw [List.foldlM_cons]
    cases q'.enter name <;> rfl

theorem Place.enter_name (h : IsName name) (hup : name ≠ "..") :
    q.enter name = (q.here.lookUp name).map fun t =>
      ⟨q.names ++ [name], t, (q.names, q.here) :: q.above⟩ := by
  have hnot : ¬ (RawText.sound name = "." ∨ RawText.sound name = "..") := by
    rintro (he | he)
    · exact h.ne_dot (RawText.sound.inj he)
    · exact hup (RawText.sound.inj he)
  rw [Place.enter, if_neg hnot]
  rfl

theorem reach_child_of_reach (h : (p.child name).IsProper) (hup : name ≠ "..")
    (hq : fs.reach p = .ok q) :
    fs.reach (p.child name) = (q.here.lookUp name).map fun t =>
      ⟨q.names ++ [name], t, (q.names, q.here) :: q.above⟩ := by
  rw [reach_child h, hq, ok_bind, Place.enter_name h.of_child.2 hup]

theorem Place.follow_dot_eq_ok_iff {q' : Place} :
    q.follow [.sound "."] = .ok q' ↔ q' = q ∧ q.here.isDirectory := by
  have henter : q.enter "." = if q.here.isDirectory then .ok q else .error .notADirectory := by
    rw [Place.enter, if_pos (.inl rfl)]
    cases q.here.isDirectory <;> rfl
  have hfollow : q.follow [.sound "."] = q.enter "." := by
    show q.enter "." >>= _ = _
    cases q.enter "." <;> rfl
  rw [hfollow, henter]
  split_ifs with hdirectory
  · rw [Except.ok.injEq, and_iff_left hdirectory, eq_comm]
  · exact ⟨nofun, fun h => absurd h.2 hdirectory⟩

theorem locate_eq (h : p.IsProper) (hshort : p.text.utf8ByteSize < maxPathBytes) :
    fs.locate p.text = fs.startOf p.text >>= fun q => q.follow (namesOf p.text) >>= fun q =>
      if endsInSlash p.text && !q.here.isDirectory then .error .notADirectory else .ok q := by
  unfold locate
  rw [checkPath_text h, if_neg (by omega)]
  dsimp only
  cases fs.startOf p.text <;> rfl

theorem length_text_lt_of_locate (h : p.IsProper) (hlocate : fs.locate p.text = .ok q) :
    p.text.utf8ByteSize < maxPathBytes := by
  by_contra hlong
  rw [locate, checkPath_text h, if_pos (not_lt.1 hlong)] at hlocate
  cases hlocate

/-- What a text leads to is what its names lead to. -/
theorem reach_of_locate (h : p.IsProper) (hlocate : fs.locate p.text = .ok q) :
    fs.reach p = .ok q := by
  rw [locate_eq h (length_text_lt_of_locate h hlocate)] at hlocate
  obtain ⟨start, hstart, hlocate⟩ := bind_eq_ok_iff.1 hlocate
  obtain ⟨q', hfollow, hlocate⟩ := bind_eq_ok_iff.1 hlocate
  rw [reach, hstart, ok_bind]
  split_ifs at hlocate
  obtain rfl := Except.ok.inj hlocate
  by_cases hempty : p.slashes = "" ∧ p.names = []
  · rw [text_eq h, if_pos hempty, namesOf_dot, Place.follow_dot_eq_ok_iff] at hfollow
    rw [hempty.2, hfollow.1]
    rfl
  · rwa [namesOf_text h hempty] at hfollow

/-- **A text leads to the directory to which its names lead**, if it is not too long. -/
theorem locate_text (h : p.IsProper) (hshort : p.text.utf8ByteSize < maxPathBytes)
    (hreach : fs.reach p = .ok q) (hq : q.here.isDirectory) : fs.locate p.text = .ok q := by
  obtain ⟨start, hstart, hfollow⟩ := bind_eq_ok_iff.1 hreach
  rw [locate_eq h hshort, hstart, ok_bind]
  have hback : start.follow (namesOf p.text) = .ok q := by
    by_cases hempty : p.slashes = "" ∧ p.names = []
    · rw [hempty.2] at hfollow
      obtain rfl : start = q := Except.ok.inj hfollow
      rw [text_eq h, if_pos hempty, namesOf_dot, Place.follow_dot_eq_ok_iff]
      exact ⟨rfl, hq⟩
    · rwa [namesOf_text h hempty]
  rw [hback, ok_bind, hq]
  simp

theorem locate_text_error {f : FileTree.Fault} (h : p.IsProper)
    (hshort : p.text.utf8ByteSize < maxPathBytes) (hnames : p.names ≠ [])
    (hreach : fs.reach p = .error f) : fs.locate p.text = .error f := by
  rw [locate_eq h hshort, namesOf_text h fun he => hnames he.2]
  rcases bind_eq_error_iff.1 hreach with hstart | ⟨start, hstart, hfollow⟩
  · rw [hstart]
    rfl
  · rw [hstart, ok_bind, hfollow]
    rfl

end TapeMachine.FileSystem
