import ShaderGraph.Proofs.FileTrees

/-!
# Cleaned paths and places

In a cleaned path every step up comes first, and from the root there is none. So cleaning twice is
cleaning once, a name joined to a directory stands directly below the cleaned directory, and a path that
leads to a place of a file tree leads to the place that its cleaned elements spell out.
-/
namespace ShaderGraph

namespace Text

theorem join_append_singleton (sep : Text) {ts : List Text} (hne : ts ≠ []) (t : Text) :
    join sep (ts ++ [t]) = join sep ts ++ sep ++ t := by
  induction ts with
  | nil => exact absurd rfl hne
  | cons u us ih =>
    cases us with
    | nil => rfl
    | cons v vs =>
      rw [List.cons_append, List.cons_append, Literal.join_cons_cons, Literal.join_cons_cons,
        ← List.cons_append, ih (by simp)]
      simp only [List.append_assoc]

end Text

namespace Path

variable {rooted : Bool} {done : List Text} {dir name p : Text}

/-- Elements as cleaning leaves them, in reverse order: every step up comes first, and from the root
there is none. -/
structure Settled (rooted : Bool) (done : List Text) : Prop where
  nonempty : [] ∉ done
  ne_here : Text.ofString "." ∉ done
  ups : ∃ names k, done = names ++ List.replicate k (Text.ofString "..") ∧
    Text.ofString ".." ∉ names ∧ (rooted = true → k = 0)

theorem Settled.nil (rooted : Bool) : Settled rooted [] :=
  ⟨List.not_mem_nil, List.not_mem_nil, [], 0, rfl, List.not_mem_nil, fun _ => rfl⟩

theorem Settled.tail {e : Text} (h : Settled rooted (e :: done)) : Settled rooted done := by
  obtain ⟨names, k, hdone, hnames, hk⟩ := h.ups
  refine ⟨fun hm => h.nonempty (List.mem_cons_of_mem _ hm),
    fun hm => h.ne_here (List.mem_cons_of_mem _ hm), ?_⟩
  cases names with
  | nil =>
    cases k with
    | zero => cases hdone
    | succ k =>
      refine ⟨[], k, (List.cons.inj hdone).2, List.not_mem_nil, fun hr => ?_⟩
      exact absurd (hk hr) (Nat.succ_ne_zero k)
  | cons n names =>
    exact ⟨names, k, (List.cons.inj hdone).2, fun hm => hnames (List.mem_cons_of_mem _ hm), hk⟩

theorem Settled.of_up (h : Settled rooted (Text.ofString ".." :: done)) :
    rooted = false ∧ ∃ k, done = List.replicate k (Text.ofString "..") := by
  obtain ⟨names, k, hdone, hnames, hk⟩ := h.ups
  cases names with
  | nil =>
    cases k with
    | zero => cases hdone
    | succ k =>
      refine ⟨?_, k, (List.cons.inj hdone).2⟩
      cases rooted with
      | false => rfl
      | true => exact absurd (hk rfl) (Nat.succ_ne_zero k)
  | cons n names =>
    exact absurd (List.cons.inj hdone).1 fun hn => hnames (hn ▸ List.mem_cons_self)

theorem Settled.pushElement (h : Settled rooted done) (elem : Text) :
    Settled rooted (pushElement rooted done elem) := by
  obtain ⟨names, k, hdone, hnames, hk⟩ := h.ups
  unfold Path.pushElement
  split
  · exact h
  · rename_i helem
    rw [Bool.or_eq_true, not_or] at helem
    have hempty : elem ≠ [] := by simpa using helem.1
    have hhere : elem ≠ Text.ofString "." := by simpa using helem.2
    have hpushed : [] ∉ elem :: done ∧ Text.ofString "." ∉ elem :: done :=
      ⟨List.not_mem_cons_of_ne_of_not_mem (Ne.symm hempty) h.nonempty,
        List.not_mem_cons_of_ne_of_not_mem (Ne.symm hhere) h.ne_here⟩
    split
    · rename_i hup
      obtain rfl : elem = Text.ofString ".." := by simpa using hup
      split
      · rename_i last rest
        split
        · rename_i hlast
          obtain rfl : last = Text.ofString ".." := by simpa using hlast
          obtain ⟨hroot, j, rfl⟩ := h.of_up
          refine ⟨hpushed.1, hpushed.2, [], j + 2, rfl, List.not_mem_nil, fun hr => ?_⟩
          rw [hroot] at hr
          cases hr
        · exact h.tail
      · split
        · exact h
        · rename_i hroot
          exact ⟨hpushed.1, hpushed.2, [], 1, rfl, List.not_mem_nil, fun hr => absurd hr hroot⟩
    · rename_i hup
      have hup : elem ≠ Text.ofString ".." := by simpa using hup
      exact ⟨hpushed.1, hpushed.2, elem :: names, k, by rw [hdone, List.cons_append],
        List.not_mem_cons_of_ne_of_not_mem (Ne.symm hup) hnames, hk⟩

theorem Settled.foldl (h : Settled rooted done) (elems : List Text) :
    Settled rooted (elems.foldl (Path.pushElement rooted) done) := by
  induction elems generalizing done with
  | nil => exact h
  | cons elem elems ih => exact ih (h.pushElement elem)

theorem settled_cleanElements (p : Text) :
    Settled (isAbsolute p) (cleanElements p).reverse := by
  rw [cleanElements, List.reverse_reverse]
  exact (Settled.nil _).foldl _

/-! ## Cleaning twice -/

theorem Settled.pushElement_eq {e : Text} (h : Settled rooted (e :: done)) :
    Path.pushElement rooted done e = e :: done := by
  have hempty : e.isEmpty = false := by
    simpa using fun he : e = [] => h.nonempty (he ▸ List.mem_cons_self)
  have hhere : (e == Text.ofString ".") = false := by
    simpa using fun he : e = Text.ofString "." => h.ne_here (he ▸ List.mem_cons_self)
  simp only [Path.pushElement, hempty, hhere, Bool.or_self, Bool.false_eq_true, if_false]
  by_cases hup : e = Text.ofString ".."
  · subst hup
    obtain ⟨hroot, k, rfl⟩ := h.of_up
    cases k with
    | zero => simp [hroot]
    | succ k => simp [List.replicate_succ]
  · simp [hup]

theorem Settled.foldl_reverse (h : Settled rooted done) :
    done.reverse.foldl (Path.pushElement rooted) [] = done := by
  induction done with
  | nil => rfl
  | cons e done ih =>
    rw [List.reverse_cons, List.foldl_append, ih h.tail, List.foldl_cons, List.foldl_nil,
      h.pushElement_eq]

theorem foldl_cleanElements (p : Text) :
    (cleanElements p).foldl (pushElement (isAbsolute p)) [] = (cleanElements p).reverse := by
  have h := (settled_cleanElements p).foldl_reverse
  rwa [List.reverse_reverse] at h

theorem ne_nil_of_mem_cleanElements {e : Text} (h : e ∈ cleanElements p) : e ≠ [] := by
  rintro rfl
  exact (settled_cleanElements p).nonempty (List.mem_reverse.mpr h)

theorem splitOn_body (h : cleanElements p ≠ []) :
    Text.splitOn 0x2f (Text.join "/" (cleanElements p)) = cleanElements p :=
  splitOn_join h fun _ he => noSlash_of_mem_cleanElements he

theorem body_ne_nil (h : cleanElements p ≠ []) : Text.join "/" (cleanElements p) ≠ [] := by
  intro hnil
  have hsplit := splitOn_body h
  rw [hnil] at hsplit
  have hmem : ([] : Text) ∈ cleanElements p := by
    rw [← hsplit]
    exact List.mem_cons_self
  exact ne_nil_of_mem_cleanElements hmem rfl

theorem clean_of_nil (h : cleanElements p = []) :
    clean p = if isAbsolute p then [0x2f] else Text.ofString "." := by
  rw [clean, h]
  rfl

theorem clean_of_ne_nil (h : cleanElements p ≠ []) :
    clean p = (if isAbsolute p then [0x2f] else []) ++ Text.join "/" (cleanElements p) := by
  have hbody : (Text.join "/" (cleanElements p)).isEmpty = false := by simpa using body_ne_nil h
  rw [clean]
  split <;> simp [hbody]

theorem isAbsolute_body (h : cleanElements p ≠ []) :
    isAbsolute (Text.join "/" (cleanElements p)) = false := by
  cases hbody : Text.join "/" (cleanElements p) with
  | nil => rfl
  | cons b rest =>
    have hb : b ≠ 0x2f := by
      rintro rfl
      have hsplit := splitOn_body h
      rw [hbody, Text.splitOn, if_pos rfl] at hsplit
      exact ne_nil_of_mem_cleanElements (hsplit ▸ List.mem_cons_self) rfl
    simpa [isAbsolute] using hb

theorem isAbsolute_clean (p : Text) : isAbsolute (clean p) = isAbsolute p := by
  by_cases h : cleanElements p = []
  · rw [clean_of_nil h]
    cases isAbsolute p <;> rfl
  · rw [clean_of_ne_nil h]
    cases isAbsolute p with
    | true => rfl
    | false => exact isAbsolute_body h

theorem cleanElements_clean (p : Text) : cleanElements (clean p) = cleanElements p := by
  rw [cleanElements, isAbsolute_clean, ← List.reverse_eq_iff.mpr (foldl_cleanElements p)]
  congr 1
  by_cases h : cleanElements p = []
  · rw [h, clean_of_nil h]
    cases isAbsolute p <;> rfl
  · rw [clean_of_ne_nil h]
    cases isAbsolute p with
    | true =>
      rw [if_pos rfl, List.singleton_append, Text.splitOn, if_pos rfl, splitOn_body h]
      rfl
    | false =>
      rw [if_neg (by simp), List.nil_append, splitOn_body h]

theorem clean_clean (p : Text) : clean (clean p) = clean p := by
  rw [clean, cleanElements_clean, isAbsolute_clean]
  rfl

/-! ## Names below a directory -/

def below (dir name : Text) : Text :=
  if dir = Text.ofString "." then name
  else if dir = [0x2f] then 0x2f :: name
  else dir ++ 0x2f :: name

theorem clean_ne_of_ne_nil (h : cleanElements p ≠ []) :
    clean p ≠ Text.ofString "." ∧ clean p ≠ [0x2f] := by
  have hall : ∀ q, cleanElements q = [] → clean p ≠ q := by
    rintro q hq rfl
    exact h (cleanElements_clean p ▸ hq)
  exact ⟨hall _ (by decide), hall _ (by decide)⟩

theorem join_eq_below (hdir : dir ≠ []) (hname : IsElement name) :
    join dir name = below (clean dir) name := by
  have hempty : dir.isEmpty = false := by simpa using hdir
  have helements := cleanElements_append hdir hname
  rw [join, hempty, if_neg (by simp), clean_of_ne_nil (by simp [helements]), helements,
    isAbsolute_append hdir]
  by_cases h : cleanElements dir = []
  · rw [h, clean_of_nil h]
    cases isAbsolute dir <;> rfl
  · obtain ⟨hhere, hroot⟩ := clean_ne_of_ne_nil h
    rw [below, if_neg hhere, if_neg hroot, clean_of_ne_nil h, Text.join_append_singleton _ h,
      slash_eq]
    simp only [List.append_assoc, List.singleton_append]

theorem directory_append {before : Text} (hname : 0x2f ∉ name)
    (hbefore : before = [] ∨ before.getLast? = some 0x2f) :
    directory (before ++ name) = clean before := by
  have hdrop : (name.reverse ++ before.reverse).dropWhile (fun b => decide (b ≠ 0x2f)) =
      before.reverse.dropWhile (fun b => decide (b ≠ 0x2f)) :=
    List.dropWhile_append_of_pos fun b hb => by
      have hne : b ≠ 0x2f := fun h => hname (h ▸ List.mem_reverse.mp hb)
      simpa using hne
  rw [directory, List.reverse_append, hdrop]
  rcases hbefore with rfl | hlast
  · rfl
  · rw [← List.head?_reverse] at hlast
    cases hrev : before.reverse with
    | nil =>
      rw [hrev] at hlast
      cases hlast
    | cons b rest =>
      rw [hrev] at hlast
      obtain rfl := Option.some.inj hlast
      rw [List.dropWhile_cons_of_neg (by simp), ← hrev, List.reverse_reverse]

theorem clean_append_slash (hdir : p ≠ []) : clean (p ++ [0x2f]) = clean p := by
  have helements : cleanElements (p ++ [0x2f]) = cleanElements p := by
    rw [cleanElements, cleanElements, isAbsolute_append hdir, Literal.splitOn_append_cons,
      List.foldl_append]
    rfl
  rw [clean, clean, helements, isAbsolute_append hdir]

structure Child (dir name path : Text) : Prop where
  fixed : clean path = path
  spelled : path = below (clean dir) name
  around : directory path = clean dir
  absolute : isAbsolute path = isAbsolute dir
  elements : cleanElements path = cleanElements dir ++ [name]

theorem directory_below (dir : Text) (hname : IsElement name) :
    directory (below (clean dir) name) = clean dir := by
  unfold below
  split
  · rename_i hhere
    rw [hhere]
    exact directory_append hname.noSlash (Or.inl rfl)
  · split
    · rename_i hroot
      rw [hroot]
      have hlast : [(0x2f : UInt8)].getLast? = some 0x2f := rfl
      exact directory_append hname.noSlash (Or.inr hlast)
    · have hne : clean dir ≠ [] := by
        intro hnil
        have hfixed := clean_clean dir
        rw [hnil] at hfixed
        cases hfixed
      rw [List.append_cons, directory_append hname.noSlash (Or.inr List.getLast?_concat),
        clean_append_slash hne, clean_clean]

theorem child_join (hdir : dir ≠ []) (hname : IsElement name) : Child dir name (join dir name) := by
  have hempty : dir.isEmpty = false := by simpa using hdir
  have hjoin : join dir name = clean (dir ++ 0x2f :: name) := by
    rw [join, hempty, if_neg (by simp)]
  refine ⟨?_, join_eq_below hdir hname, ?_, ?_, ?_⟩
  · rw [hjoin, clean_clean]
  · rw [join_eq_below hdir hname, directory_below dir hname]
  · rw [hjoin, isAbsolute_clean, isAbsolute_append hdir]
  · rw [hjoin, cleanElements_clean, cleanElements_append hdir hname]

/-! ## Places -/

/-- Where a path leads if every directory on its way is there. -/
def place (p : Text) : Location := (if isAbsolute p then [[]] else []) ++ cleanElements p

theorem Child.place_eq {path : Text} (h : Child dir name path) : place path = place dir ++ [name] := by
  rw [place, place, h.absolute, h.elements, List.append_assoc]

end Path

namespace FileTree

variable {t t' : FileTree} {l : Location} {path : Text}

theorem parent_replicate (k : Nat) :
    Location.parent (List.replicate k (Text.ofString "..")) =
      List.replicate (k + 1) (Text.ofString "..") := by
  have hroot : List.replicate k (Text.ofString "..") ≠ [[]] := by
    intro h
    have hup : ([] : Text) = Text.ofString ".." :=
      List.eq_of_mem_replicate (h ▸ List.mem_cons_self)
    cases hup
  rw [Location.parent, if_neg hroot, if_pos (by simp [Location.up]), List.replicate_succ]
  rfl

theorem parent_concat {last : Text} (hup : last ≠ Text.ofString "..") (hroot : l ++ [last] ≠ [[]]) :
    Location.parent (l ++ [last]) = l := by
  rw [Location.parent, if_neg hroot, if_neg (by simp [Location.up, hup]), List.dropLast_concat]

theorem parent_push {rooted : Bool} {done : List Text} (hdone : Path.Settled rooted done) :
    Location.parent ((if rooted then [[]] else []) ++ done.reverse) =
      (if rooted then [[]] else []) ++
        (Path.pushElement rooted done (Text.ofString "..")).reverse := by
  cases done with
  | nil => cases rooted <;> rfl
  | cons last rest =>
    by_cases hlast : last = Text.ofString ".."
    · subst hlast
      obtain ⟨rfl, k, rfl⟩ := hdone.of_up
      have hpush : Path.pushElement false (Text.ofString ".." :: List.replicate k (Text.ofString ".."))
          (Text.ofString "..") = List.replicate (k + 2) (Text.ofString "..") := rfl
      rw [hpush, ← List.replicate_succ, List.reverse_replicate, List.reverse_replicate]
      exact parent_replicate (k + 1)
    · have hpush : Path.pushElement rooted (last :: rest) (Text.ofString "..") = rest := by
        unfold Path.pushElement
        rw [if_neg (by decide), if_pos (by decide)]
        exact if_neg (by simpa using hlast)
      rw [hpush, List.reverse_cons, ← List.append_assoc]
      refine parent_concat hlast fun hroot => ?_
      -- A place of one name, and that one empty, is the root with nothing pushed.
      cases rooted with
      | true => simp at hroot
      | false =>
        have hempty : last = [] := by simpa using congrArg List.getLast? hroot
        exact hdone.nonempty (hempty ▸ List.mem_cons_self)

theorem descend_push {rooted : Bool} {done : List Text} {elem : Text}
    (hdone : Path.Settled rooted done)
    (h : t.descend ((if rooted then [[]] else []) ++ done.reverse) elem = .ok l) :
    l = (if rooted then [[]] else []) ++ (Path.pushElement rooted done elem).reverse := by
  unfold descend at h
  split at h
  · cases h
  · cases h
  · split at h
    · rename_i hhere
      unfold Path.pushElement
      rw [if_pos hhere]
      exact (Except.ok.inj h).symm
    · rename_i hhere
      split at h
      · rename_i hup
        obtain rfl : elem = Text.ofString ".." := beq_iff_eq.mp hup
        rw [← parent_push hdone]
        exact (Except.ok.inj h).symm
      · rename_i hup
        have hup' : ¬ (elem == Text.ofString "..") = true := hup
        unfold Path.pushElement
        rw [if_neg hhere, if_neg hup', List.reverse_cons]
        split at h
        · cases h
        · rw [← Except.ok.inj h, List.append_assoc]

theorem foldlM_descend {rooted : Bool} {elems done : List Text} (hdone : Path.Settled rooted done)
    (h : elems.foldlM t.descend ((if rooted then [[]] else []) ++ done.reverse) = .ok l) :
    l = (if rooted then [[]] else []) ++ (elems.foldl (Path.pushElement rooted) done).reverse := by
  induction elems generalizing done with
  | nil => exact (Outcome.pure_eq_ok.mp h).symm
  | cons elem elems ih =>
    rw [List.foldlM_cons] at h
    obtain ⟨mid, hmid, h⟩ := Outcome.bind_eq_ok.mp h
    rw [descend_push hdone hmid] at h
    exact ih (hdone.pushElement elem) h

/-- A path that leads anywhere leads to the place that its cleaned elements spell out. -/
theorem eq_place_of_locate (h : t.locate path = .ok l) : l = Path.place path := by
  have hway := (locate_eq_ok.mp h).2
  rw [← List.append_nil (if Path.isAbsolute path then _ else _)] at hway
  exact foldlM_descend (Path.Settled.nil (Path.isAbsolute path)) hway

/-! ## Making directories makes no files -/

def SameFiles (t t' : FileTree) : Prop :=
  ∀ l c, t'.entry? l = some (.file c) ↔ t.entry? l = some (.file c)

theorem SameFiles.refl (t : FileTree) : t.SameFiles t := fun _ _ => .rfl

theorem SameFiles.trans {t'' : FileTree} (h : t.SameFiles t') (h' : t'.SameFiles t'') :
    t.SameFiles t'' := fun l c => (h' l c).trans (h l c)

theorem makeDirectory_sameFiles (h : t.makeDirectory path = .ok t') : t.SameFiles t' := by
  unfold makeDirectory at h
  split at h
  · cases h
  · rename_i place _
    split at h
    · cases h
    · rename_i hnone
      have hnone : t.entry? place = none := by simpa using hnone
      obtain rfl := Except.ok.inj h
      intro l c
      rw [entry?_put (by simp [hnone])]
      split
      · rename_i hl
        simp [hl, hnone]
      · rfl

theorem makeLast_sameFiles (h : t.makeLast path = .ok t') : t.SameFiles t' := by
  unfold makeLast at h
  split at h
  · rename_i hmade
    exact Except.ok.inj h ▸ makeDirectory_sameFiles hmade
  · split at h
    · exact Except.ok.inj h ▸ .refl t
    · cases h

theorem makeDirectories_sameFiles (h : t.makeDirectories path = .ok t') : t.SameFiles t' := by
  induction path using makeDirectories.induct t generalizing t' with
  | case1 path hfind =>
    rw [makeDirectories, hfind] at h
    exact Except.ok.inj h ▸ .refl t
  | case2 path content hfind =>
    rw [makeDirectories, hfind] at h
    cases h
  | case3 path cause hfind p hp ih =>
    rw [makeDirectories_of_error hfind, hp] at h
    obtain ⟨mid, hmid, h⟩ := Outcome.bind_eq_ok.mp h
    exact (ih hmid).trans (makeLast_sameFiles h)
  | case4 path cause hfind hp =>
    rw [makeDirectories_of_error hfind, hp] at h
    exact makeLast_sameFiles h

end FileTree
end ShaderGraph
