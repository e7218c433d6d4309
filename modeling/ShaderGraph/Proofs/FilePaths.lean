import ShaderGraph.Text.Path
import ShaderGraph.Proofs.Tuples

/-!
# Cleaned paths

A path splits into the elements between its slashes, and a cleaned path is its elements joined again,
none of which has a slash in it. Joining a directory and the name of a file adds the name as the last
element.
-/
namespace ShaderGraph

namespace Text

theorem not_mem_of_mem_splitOn {sep : UInt8} {t piece : Text} (h : piece ∈ splitOn sep t) :
    sep ∉ piece := by
  induction t generalizing piece with
  | nil => simp [List.mem_singleton.mp h]
  | cons b t ih =>
    rw [splitOn] at h
    split at h
    · rcases List.mem_cons.mp h with rfl | h
      · exact List.not_mem_nil
      · exact ih h
    · rename_i hb
      cases hs : splitOn sep t with
      | nil => exact absurd hs (Literal.splitOn_ne_nil sep t)
      | cons p ps =>
        rw [hs] at h ih
        rcases List.mem_cons.mp h with rfl | h
        · exact List.not_mem_cons_of_ne_of_not_mem (Ne.symm hb) (ih List.mem_cons_self)
        · exact ih (List.mem_cons_of_mem _ h)

theorem join_concat (sep : Text) (ts : List Text) (t : Text) :
    ∃ before, join sep (ts ++ [t]) = before ++ t := by
  induction ts with
  | nil => exact ⟨[], rfl⟩
  | cons u us ih =>
    obtain ⟨before, hbefore⟩ := ih
    refine ⟨u ++ sep ++ before, ?_⟩
    have hcons : join sep (u :: (us ++ [t])) = u ++ sep ++ join sep (us ++ [t]) := by
      cases us <;> rfl
    rw [List.cons_append, hcons, hbefore, List.append_assoc, List.append_assoc, List.append_assoc]

end Text

namespace Path

theorem slash_eq : Text.ofString "/" = [0x2f] := by decide

theorem splitOn_join {ts : List Text} (hne : ts ≠ []) (hts : ∀ t ∈ ts, 0x2f ∉ t) :
    Text.splitOn 0x2f (Text.join "/" ts) = ts := by
  rw [slash_eq]
  exact Literal.splitOn_join_byte hne hts

structure IsElement (name : Text) : Prop where
  nonempty : name ≠ []
  noSlash : 0x2f ∉ name
  ne_here : name ≠ "."
  ne_up : name ≠ ".."

theorem mem_of_mem_pushElement {rooted : Bool} {done : List Text} {elem e : Text}
    (h : e ∈ pushElement rooted done elem) : e = elem ∨ e ∈ done := by
  unfold pushElement at h
  split at h
  · exact Or.inr h
  · split at h
    · split at h
      · split at h
        · exact List.mem_cons.mp h
        · exact Or.inr (List.mem_cons_of_mem _ h)
      · split at h
        · exact Or.inr h
        · exact Or.inl (List.mem_singleton.mp h)
    · exact List.mem_cons.mp h

theorem mem_of_mem_foldl_pushElement {rooted : Bool} {elems done : List Text} {e : Text}
    (h : e ∈ elems.foldl (pushElement rooted) done) : e ∈ elems ∨ e ∈ done := by
  induction elems generalizing done with
  | nil => exact Or.inr h
  | cons elem elems ih =>
    rcases ih h with he | he
    · exact Or.inl (List.mem_cons_of_mem _ he)
    · rcases mem_of_mem_pushElement he with rfl | he
      · exact Or.inl List.mem_cons_self
      · exact Or.inr he

theorem noSlash_of_mem_cleanElements {p e : Text} (h : e ∈ cleanElements p) : 0x2f ∉ e := by
  rcases mem_of_mem_foldl_pushElement (List.mem_reverse.mp h) with he | he
  · exact Text.not_mem_of_mem_splitOn he
  · cases he

theorem IsElement.pushElement {name : Text} (h : IsElement name) (rooted : Bool)
    (done : List Text) : pushElement rooted done name = name :: done := by
  have hempty : name.isEmpty = false := by simpa using h.nonempty
  have hhere : (name == Text.ofString ".") = false := by simpa using h.ne_here
  have hup : (name == Text.ofString "..") = false := by simpa using h.ne_up
  simp [Path.pushElement, hempty, hhere, hup]

theorem isAbsolute_append {dir : Text} (hdir : dir ≠ []) (t : Text) :
    isAbsolute (dir ++ t) = isAbsolute dir := by
  obtain ⟨b, rest, rfl⟩ := List.exists_cons_of_ne_nil hdir
  rfl

theorem cleanElements_append {dir name : Text} (hdir : dir ≠ []) (hname : IsElement name) :
    cleanElements (dir ++ 0x2f :: name) = cleanElements dir ++ [name] := by
  rw [cleanElements, cleanElements, isAbsolute_append hdir, Literal.splitOn_append_cons,
    Literal.splitOn_of_not_mem hname.noSlash, List.foldl_append, List.foldl_cons, List.foldl_nil,
    hname.pushElement, List.reverse_cons]

/-- The elements of a path as they stand in it. A path from the root starts with an empty one. -/
theorem splitOn_join_path {dir name : Text} (hdir : dir ≠ []) (hname : IsElement name) :
    Text.splitOn 0x2f (join dir name) =
      (if isAbsolute dir then [[]] else []) ++ cleanElements dir ++ [name] := by
  have hempty : dir.isEmpty = false := by simpa using hdir
  have hclean : ∀ t ∈ cleanElements dir ++ [name], 0x2f ∉ t := by
    intro t ht
    rcases List.mem_append.mp ht with ht | ht
    · exact noSlash_of_mem_cleanElements ht
    · rw [List.mem_singleton.mp ht]
      exact hname.noSlash
  have hpieces := splitOn_join (by simp) hclean
  obtain ⟨before, hbefore⟩ := Text.join_concat "/" (cleanElements dir) name
  have hbody : (Text.join "/" (cleanElements dir ++ [name])).isEmpty = false := by
    simp [hbefore, hname.nonempty]
  rw [join, hempty, if_neg (by simp), clean, cleanElements_append hdir hname,
    isAbsolute_append hdir]
  split
  · simp [Text.splitOn, hpieces]
  · simp [hbody, hpieces]

theorem join_eq_append {dir name : Text} (hdir : dir ≠ []) (hname : IsElement name) :
    ∃ before, join dir name = before ++ name := by
  have hempty : dir.isEmpty = false := by simpa using hdir
  obtain ⟨before, hbefore⟩ := Text.join_concat "/" (cleanElements dir) name
  rw [join, hempty, if_neg (by simp), clean, cleanElements_append hdir hname, hbefore]
  split
  · exact ⟨0x2f :: before, rfl⟩
  · exact ⟨before, by simp [hname.nonempty]⟩

end Path
end ShaderGraph
