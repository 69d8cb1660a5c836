import QualityGate.Path
import Mathlib.Data.List.TakeWhile

namespace QualityGate.Path

theorem segments_ne_nil (cs : List Char) : segments cs ≠ [] := by
  cases cs with
  | nil => simp [segments]
  | cons c cs =>
    rw [segments]
    split
    · simp
    · split <;> simp

theorem segments_eq_splitOn (cs : List Char) : segments cs = cs.splitOn '/' := by
  induction cs with
  | nil => rfl
  | cons c cs ih =>
    rw [segments, List.splitOn_eq_splitOnP, List.splitOnP_cons_eq_if_modifyHead,
      ← List.splitOn_eq_splitOnP, ← ih]
    by_cases hc : c = '/'
    · simp [hc]
    · obtain ⟨s, ss, hs⟩ := List.exists_cons_of_ne_nil (segments_ne_nil cs)
      simp [hc, hs]

/-- The name is the last of what stands between slashes, other than nothing and a single dot, and
it is not the way to a parent. -/
structure EndsIn (path name : String) : Prop where
  last : ((path.toList.splitOn '/').filter fun s => s ≠ [] ∧ s ≠ ['.']).getLast? = some name.toList
  no_parent : name ≠ ".."

/-- The extension is what follows the last dot of the name, which does not begin with that dot. -/
structure Extends (name ext : String) : Prop where
  no_dot : '.' ∉ ext.toList
  stem : ∃ stem, stem ≠ [] ∧ name.toList = stem ++ '.' :: ext.toList

theorem fileNameChars?_eq_some_iff (path name : String) :
    fileNameChars? path.toList = some name.toList ↔ EndsIn path name := by
  have hp : name.toList ≠ ['.', '.'] ↔ name ≠ ".." := by
    rw [ne_eq, ne_eq, ← String.toList_inj]
    rfl
  rw [fileNameChars?, components, segments_eq_splitOn, Option.filter_eq_some_iff]
  simp only [decide_eq_true_eq, hp]
  exact ⟨fun ⟨hl, hn⟩ => ⟨hl, hn⟩, fun ⟨hl, hn⟩ => ⟨hl, hn⟩⟩

theorem fileName?_eq_some_iff (path name : String) :
    fileName? path = some name ↔ EndsIn path name := by
  rw [← fileNameChars?_eq_some_iff, fileName?, Option.map_eq_some_iff]
  constructor
  · rintro ⟨cs, h, rfl⟩
    rwa [String.toList_ofList]
  · intro h
    exact ⟨_, h, String.ofList_toList⟩

theorem extensionOfName?_append {stem ext : List Char} (h : '.' ∉ ext) :
    extensionOfName? (stem ++ '.' :: ext) = if stem = [] then none else some ext := by
  have ht : (stem ++ '.' :: ext).reverse.takeWhile (· ≠ '.') = ext.reverse := by
    have he : ∀ c ∈ ext.reverse, decide (c ≠ '.') = true := by
      intro c hc
      simpa using fun hd : c = '.' => h (hd ▸ List.mem_reverse.mp hc)
    rw [List.reverse_append, List.reverse_cons, List.append_assoc, List.singleton_append,
      List.takeWhile_append_of_pos he, List.takeWhile_cons_of_neg (by simp), List.append_nil]
  rw [extensionOfName?, ht, List.reverse_reverse]
  by_cases hs : stem = []
  · simp [hs]
  · have hl : 0 < stem.length := List.length_pos_iff.mpr hs
    rw [if_pos (by simp only [List.length_append, List.length_cons]; omega), if_neg hs]

theorem extensionOfName?_of_not_mem {name : List Char} (h : '.' ∉ name) :
    extensionOfName? name = none := by
  have ht : name.reverse.takeWhile (· ≠ '.') = name.reverse := by
    refine List.takeWhile_eq_self_iff.mpr fun c hc => ?_
    simpa using fun hd : c = '.' => h (hd ▸ List.mem_reverse.mp hc)
  rw [extensionOfName?, ht, List.reverse_reverse, if_neg (by omega)]

theorem extensionOfName?_eq_some_iff (name ext : List Char) :
    extensionOfName? name = some ext ↔
      '.' ∉ ext ∧ ∃ stem, stem ≠ [] ∧ name = stem ++ '.' :: ext := by
  constructor
  · intro h
    by_cases hm : '.' ∈ name.reverse
    · obtain ⟨after, before, hr, hn⟩ := List.eq_append_cons_of_mem hm
      obtain rfl : name = before.reverse ++ '.' :: after.reverse := by
        rw [← List.reverse_reverse name, hr]
        simp
      have hn' : '.' ∉ after.reverse := by simpa using hn
      rw [extensionOfName?_append hn'] at h
      split at h
      · cases h
      · next hs =>
        cases h
        exact ⟨hn', _, hs, rfl⟩
    · rw [extensionOfName?_of_not_mem (by simpa using hm)] at h
      cases h
  · rintro ⟨hd, stem, hs, rfl⟩
    rw [extensionOfName?_append hd, if_neg hs]

theorem extension?_eq_some_iff (path ext : String) :
    extension? path = some ext ↔ ∃ name, EndsIn path name ∧ Extends name ext := by
  rw [extension?, Option.map_eq_some_iff]
  constructor
  · rintro ⟨cs, h, rfl⟩
    obtain ⟨name, hn, he⟩ := Option.bind_eq_some_iff.mp h
    obtain ⟨hd, hs⟩ := (extensionOfName?_eq_some_iff ..).mp he
    refine ⟨String.ofList name, (fileNameChars?_eq_some_iff ..).mp ?_, ?_, ?_⟩
    · rwa [String.toList_ofList]
    · rwa [String.toList_ofList]
    · rwa [String.toList_ofList, String.toList_ofList]
  · rintro ⟨name, hn, hd, hs⟩
    refine ⟨ext.toList, Option.bind_eq_some_iff.mpr ⟨name.toList, ?_, ?_⟩, String.ofList_toList⟩
    · exact (fileNameChars?_eq_some_iff ..).mpr hn
    · exact (extensionOfName?_eq_some_iff ..).mpr ⟨hd, hs⟩

/-- The text can be the extension of a file. -/
structure CanExtend (ext : String) : Prop where
  no_dot : '.' ∉ ext.toList
  no_slash : '/' ∉ ext.toList

theorem not_mem_of_mem_segments {path segment : List Char} (h : segment ∈ segments path) :
    '/' ∉ segment := by
  induction path generalizing segment with
  | nil =>
    obtain rfl : segment = [] := by simpa [segments] using h
    exact List.not_mem_nil
  | cons c cs ih =>
    obtain ⟨s, ss, hs⟩ := List.exists_cons_of_ne_nil (segments_ne_nil cs)
    rw [segments] at h
    split at h
    · rcases List.mem_cons.mp h with rfl | h
      · exact List.not_mem_nil
      · exact ih h
    · next hc =>
      rw [hs] at h
      rcases List.mem_cons.mp h with rfl | h
      · have hi : '/' ∉ s := ih (by rw [hs]; exact List.mem_cons_self)
        simpa [hi] using Ne.symm hc
      · exact ih (by rw [hs]; exact List.mem_cons_of_mem s h)

theorem EndsIn.no_slash {path name : String} (h : EndsIn path name) : '/' ∉ name.toList := by
  have hm := List.mem_of_getLast? h.last
  rw [← segments_eq_splitOn] at hm
  exact not_mem_of_mem_segments (List.mem_filter.mp hm).1

theorem canExtend_of_extension? {path ext : String} (h : extension? path = some ext) :
    CanExtend ext := by
  obtain ⟨name, hn, hd, stem, -, hs⟩ := (extension?_eq_some_iff ..).mp h
  refine ⟨hd, fun hm => hn.no_slash ?_⟩
  rw [hs]
  exact List.mem_append_right _ (List.mem_cons_of_mem _ hm)

theorem segments_of_not_mem {path : List Char} (h : '/' ∉ path) : segments path = [path] := by
  induction path with
  | nil => rfl
  | cons c cs ih =>
    obtain ⟨hc, hcs⟩ : '/' ≠ c ∧ '/' ∉ cs := by simpa using h
    rw [segments, if_neg (Ne.symm hc), ih hcs]

theorem CanExtend.extension?_append {ext : String} (h : CanExtend ext) :
    extension? ("a." ++ ext) = some ext := by
  have hp : ("a." ++ ext).toList = 'a' :: '.' :: ext.toList := by simp
  have hn : '/' ∉ ("a." ++ ext).toList := by simp [hp, h.no_slash]
  refine (extension?_eq_some_iff ..).mpr ⟨"a." ++ ext, ⟨?_, ?_⟩, h.no_dot, ['a'], by decide, hp⟩
  · rw [← segments_eq_splitOn, segments_of_not_mem hn]
    simp [hp]
  · intro he
    have hl := congrArg String.toList he
    rw [hp] at hl
    cases hl

end QualityGate.Path
