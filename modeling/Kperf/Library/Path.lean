import Mathlib.Init

/-! The functions of Go's `path` package on slash separated paths. -/

set_option autoImplicit false

namespace Kperf.Path

def cleanStep (rooted : Bool) (kept : List (List Char)) (element : List Char) :
    List (List Char) :=
  if element = [] ∨ element = ['.'] then kept
  else if element = ['.', '.'] then
    match kept with
    | [] => if rooted then [] else [element]
    | ['.', '.'] :: _ => element :: kept
    | _ :: outer => outer
  else element :: kept

def joinElements (elements : List (List Char)) : List Char :=
  (elements.intersperse ['/']).flatten

/-- `path.Clean`. -/
def clean (path : String) : String :=
  let rooted := path.toList.head? == some '/'
  let kept := ((path.toList.splitOn '/').foldl (cleanStep rooted) []).reverse
  if rooted then String.ofList ('/' :: joinElements kept)
  else if kept.isEmpty then "."
  else String.ofList (joinElements kept)

def dir (path : String) : String :=
  clean (String.ofList ((path.toList.reverse.dropWhile (· != '/')).reverse))

def join (elements : List String) : String :=
  match elements.filter (· ≠ "") with
  | [] => ""
  | present => clean (String.ofList (joinElements (present.map String.toList)))

example : join [dir "/api/v1/namespaces/default/pods/a-1", ":name"] =
    "/api/v1/namespaces/default/pods/:name" := by decide

/-! An element that cleaning keeps stays the last one, so `dir` takes away exactly
that element. -/

/-- A part of a path in front of an element: nothing, or text up to a slash. -/
def Lead (chars : List Char) : Prop := chars = [] ∨ ∃ before, chars = before ++ ['/']

theorem Lead.append {first second : List Char} (lead : Lead first) (further : Lead second) :
    Lead (first ++ second) := by
  rcases further with rfl | ⟨before, rfl⟩
  · simpa using lead
  · exact .inr ⟨first ++ before, (List.append_assoc ..).symm⟩

/-- Every text is a lead and the element after it. -/
theorem exists_lead (text : List Char) :
    ∃ lead element, text = lead ++ element ∧ Lead lead ∧ '/' ∉ element := by
  induction text with
  | nil => exact ⟨[], [], rfl, .inl rfl, List.not_mem_nil⟩
  | cons char rest ih =>
      obtain ⟨lead, element, rfl, isLead, free⟩ := ih
      by_cases slash : char = '/'
      · subst slash
        exact ⟨'/' :: lead, element, rfl, Lead.append (.inr ⟨[], rfl⟩) isLead, free⟩
      · rcases isLead with rfl | ⟨before, rfl⟩
        · refine ⟨[], char :: element, rfl, .inl rfl, ?_⟩
          simp [free, Ne.symm slash]
        · exact ⟨char :: (before ++ ['/']), element, rfl, .inr ⟨char :: before, rfl⟩, free⟩

structure Ordinary (element : List Char) : Prop where
  slashFree : '/' ∉ element
  present : element ≠ []
  noDot : element ≠ ['.']
  noDotDot : element ≠ ['.', '.']

theorem Ordinary.of_dash {element : List Char} (slashFree : '/' ∉ element)
    (dash : '-' ∈ element) : Ordinary element := by
  refine ⟨slashFree, ?_, ?_, ?_⟩
  all_goals
    rintro rfl
    revert dash
    decide

theorem cleanStep_ordinary {element : List Char} (ordinary : Ordinary element) (rooted : Bool)
    (kept : List (List Char)) : cleanStep rooted kept element = element :: kept := by
  simp [cleanStep, ordinary.present, ordinary.noDot, ordinary.noDotDot]

theorem foldl_cleanStep_ordinary {elements : List (List Char)}
    (ordinary : ∀ element ∈ elements, Ordinary element) (rooted : Bool) (kept : List (List Char)) :
    elements.foldl (cleanStep rooted) kept = elements.reverse ++ kept := by
  induction elements generalizing kept with
  | nil => rfl
  | cons element rest ih =>
      obtain ⟨first, others⟩ := List.forall_mem_cons.mp ordinary
      rw [List.foldl_cons, cleanStep_ordinary first, ih others]
      simp

/-- What stands in front of the last of several elements. -/
theorem exists_joinElements_append (elements : List (List Char)) : ∃ lead, Lead lead ∧
    ∀ last, joinElements (elements ++ [last]) = lead ++ last := by
  induction elements with
  | nil => exact ⟨[], .inl rfl, fun last => by simp [joinElements]⟩
  | cons element rest ih =>
      obtain ⟨lead, isLead, joined⟩ := ih
      refine ⟨element ++ ['/'] ++ lead, Lead.append (.inr ⟨element, rfl⟩) isLead, ?_⟩
      intro last
      rw [List.append_assoc, ← joined last]
      cases rest with
      | nil => simp [joinElements]
      | cons second rest => simp [joinElements]

/-- Cleaning changes the lead, whatever the element is, and keeps the element. -/
theorem exists_clean_append {lead : List Char} (isLead : Lead lead) : ∃ cleaned, Lead cleaned ∧
    ∀ element, Ordinary element →
      clean (String.ofList (lead ++ element)) = String.ofList (cleaned ++ element) := by
  rcases isLead with rfl | ⟨before, rfl⟩
  · refine ⟨[], .inl rfl, ?_⟩
    intro element ordinary
    have unrooted : (element.head? == some '/') = false := by
      rw [beq_eq_false_iff_ne]
      intro first
      exact ordinary.slashFree (List.mem_of_mem_head? first)
    simp [clean, unrooted, List.splitOn_eq_singleton ordinary.slashFree,
      cleanStep_ordinary ordinary, joinElements]
  · let rooted : Bool := (before ++ ['/']).head? == some '/'
    obtain ⟨inner, isInner, joined⟩ := exists_joinElements_append
      ((before.splitOn '/').foldl (cleanStep rooted) []).reverse
    refine ⟨(if rooted then ['/'] else []) ++ inner, Lead.append ?_ isInner, ?_⟩
    · split
      · exact .inr ⟨[], rfl⟩
      · exact .inl rfl
    · intro element ordinary
      have head : (before ++ '/' :: element).head? = (before ++ ['/']).head? := by
        cases before <;> rfl
      have elements : (before ++ '/' :: element).splitOn '/' = before.splitOn '/' ++ [element] := by
        rw [List.splitOn_append_cons_self, List.splitOn_eq_singleton ordinary.slashFree]
      simp only [clean, String.toList_ofList, List.append_assoc, List.singleton_append, head,
        elements, List.foldl_append, List.foldl_cons, List.foldl_nil, cleanStep_ordinary ordinary,
        List.reverse_cons]
      change (if rooted then _ else _) = _
      rw [joined element]
      split
      · simp
      · simp

theorem dir_append {lead element : List Char} (isLead : Lead lead) (slashFree : '/' ∉ element) :
    dir (String.ofList (lead ++ element)) = clean (String.ofList lead) := by
  have dropped : ∀ rest, (element.reverse ++ rest).dropWhile (· != '/') =
      rest.dropWhile (· != '/') := by
    intro rest
    refine List.dropWhile_append_of_pos fun char member => ?_
    simpa using fun slash : char = '/' => slashFree (slash ▸ List.mem_reverse.mp member)
  rw [dir, String.toList_ofList, List.reverse_append, dropped]
  rcases isLead with rfl | ⟨before, rfl⟩
  · rfl
  · simp

theorem exists_join_append (elements : List String) : ∃ lead, Lead lead ∧
    ∀ last, last ≠ "" → join (elements ++ [last]) = clean (String.ofList (lead ++ last.toList)) := by
  obtain ⟨lead, isLead, joined⟩ :=
    exists_joinElements_append ((elements.filter (· ≠ "")).map String.toList)
  refine ⟨lead, isLead, ?_⟩
  intro last present
  have kept : (elements ++ [last]).filter (· ≠ "") = elements.filter (· ≠ "") ++ [last] := by
    simp [present]
  unfold join
  rw [kept]
  split
  · rename_i empty
    simp at empty
  · rw [List.map_append, List.map_singleton, joined]

/-- The end of the last element, if that has a dash and no slash, stays the end of the
joined path; what comes before it does not depend on it. -/
theorem exists_join_varying (elements : List String) (fixed : String) : ∃ lead element,
    Lead lead ∧ '/' ∉ element ∧ ∀ varying : String, '/' ∉ varying.toList → '-' ∈ varying.toList →
      join (elements ++ [fixed ++ varying]) = String.ofList (lead ++ element) ++ varying := by
  obtain ⟨outer, element, split, isOuter, free⟩ := exists_lead fixed.toList
  obtain ⟨inner, isInner, joined⟩ := exists_join_append elements
  obtain ⟨lead, isLead, cleaned⟩ := exists_clean_append (isInner.append isOuter)
  refine ⟨lead, element, isLead, free, ?_⟩
  intro varying slashFree dash
  have ordinary : Ordinary (element ++ varying.toList) :=
    .of_dash (by simp [free, slashFree]) (by simp [dash])
  have present : fixed ++ varying ≠ "" := by
    intro empty
    have chars := congrArg String.toList empty
    rw [String.toList_append, split] at chars
    simp_all
  rw [joined _ present, String.toList_append, split, List.append_assoc, ← List.append_assoc,
    cleaned _ ordinary, ← List.append_assoc, String.ofList_append, String.ofList_toList]

/-- The directory of an object below a base path does not depend on the end of its name. -/
theorem dir_join_varying (base : String) (elements : List String) (fixed : String)
    {varying : String} (slashFree : '/' ∉ varying.toList) (dash : '-' ∈ varying.toList) :
    dir (join [base, join (elements ++ [fixed ++ varying])]) =
      dir (join [base, join (elements ++ [fixed ++ "-"])]) := by
  obtain ⟨inner, object, -, -, named⟩ := exists_join_varying elements fixed
  obtain ⟨lead, element, isLead, free, based⟩ :=
    exists_join_varying [base] (String.ofList (inner ++ object))
  have directory : ∀ suffix : String, '/' ∉ suffix.toList → '-' ∈ suffix.toList →
      dir (join [base, join (elements ++ [fixed ++ suffix])]) = clean (String.ofList lead) := by
    intro suffix noSlash dashed
    have whole : join [base, join (elements ++ [fixed ++ suffix])] =
        String.ofList (lead ++ (element ++ suffix.toList)) := by
      rw [named suffix noSlash dashed]
      refine (based suffix noSlash dashed).trans ?_
      simp [String.ofList_append, String.append_assoc]
    rw [whole, dir_append isLead (by simp [free, noSlash])]
  rw [directory varying slashFree dash, directory "-" (by decide) (by decide)]

/-! The path of ordinary elements, each after a slash. -/

def absolute (elements : List String) : String :=
  String.ofList (elements.flatMap fun element => '/' :: element.toList)

theorem absolute_eq {elements : List String} (present : elements ≠ []) :
    absolute elements = String.ofList ('/' :: joinElements (elements.map String.toList)) := by
  rw [absolute]
  congr 1
  induction elements with
  | nil => exact absurd rfl present
  | cons element rest ih =>
      cases rest with
      | nil => simp [joinElements]
      | cons second rest =>
          have later := ih (List.cons_ne_nil second rest)
          rw [List.flatMap_cons, later]
          simp [joinElements]

theorem splitOn_joinElements {elements : List (List Char)} (present : elements ≠ [])
    (ordinary : ∀ element ∈ elements, Ordinary element) :
    (joinElements elements).splitOn '/' = elements :=
  List.splitOn_intercalate '/' (fun element member => (ordinary element member).slashFree) present

theorem absolute_inj {left right : List String} (some : left ≠ []) (others : right ≠ [])
    (ordinary : ∀ element ∈ left ++ right, Ordinary element.toList)
    (same : absolute left = absolute right) : left = right := by
  rw [absolute_eq some, absolute_eq others, String.ofList_inj, List.cons.injEq] at same
  have elements := congrArg (List.splitOn '/') same.2
  rw [splitOn_joinElements (by simpa using some), splitOn_joinElements (by simpa using others)]
    at elements
  · exact (List.map_inj_right fun _ _ => String.toList_inj.mp).mp elements
  · simp at ordinary ⊢
    exact fun element member => ordinary element (.inr member)
  · simp at ordinary ⊢
    exact fun element member => ordinary element (.inl member)

theorem exists_joinElements_cons {elements : List (List Char)} (present : elements ≠ [])
    (ordinary : ∀ element ∈ elements, Ordinary element) :
    ∃ char rest, joinElements elements = char :: rest ∧ char ≠ '/' := by
  cases elements with
  | nil => exact absurd rfl present
  | cons element others =>
      obtain ⟨first, -⟩ := List.forall_mem_cons.mp ordinary
      cases element with
      | nil => exact absurd rfl first.present
      | cons char rest =>
          refine ⟨char, rest ++ (joinElements ([] :: others)), ?_, ?_⟩
          · cases others <;> simp [joinElements]
          · rintro rfl
            exact first.slashFree List.mem_cons_self

theorem clean_joinElements {elements : List (List Char)} (present : elements ≠ [])
    (ordinary : ∀ element ∈ elements, Ordinary element) :
    clean (String.ofList (joinElements elements)) = String.ofList (joinElements elements) := by
  have unrooted : ((joinElements elements).head? == some '/') = false := by
    obtain ⟨char, rest, joined, other⟩ := exists_joinElements_cons present ordinary
    simp [joined, other]
  simp [clean, unrooted, splitOn_joinElements present ordinary,
    foldl_cleanStep_ordinary ordinary, present]

theorem clean_double_slash {elements : List (List Char)} (present : elements ≠ [])
    (ordinary : ∀ element ∈ elements, Ordinary element) :
    clean (String.ofList ('/' :: '/' :: joinElements elements)) =
      String.ofList ('/' :: joinElements elements) := by
  have split : ('/' :: '/' :: joinElements elements).splitOn '/' = [] :: [] :: elements := by
    calc
      _ = [].splitOn '/' ++ ([].splitOn '/' ++ (joinElements elements).splitOn '/') := by
        rw [← List.splitOn_append_cons_self, ← List.splitOn_append_cons_self]
        rfl
      _ = [] :: [] :: elements := by
        rw [splitOn_joinElements present ordinary]
        rfl
  simp [clean, split, cleanStep, foldl_cleanStep_ordinary ordinary]

theorem splitOn_absolute {elements : List String} (present : elements ≠ [])
    (ordinary : ∀ element ∈ elements, Ordinary element.toList) :
    (absolute elements).toList.splitOn '/' = [] :: elements.map String.toList := by
  have plain : ∀ element ∈ elements.map String.toList, Ordinary element := by
    simpa using ordinary
  calc
    _ = [].splitOn '/' ++ (joinElements (elements.map String.toList)).splitOn '/' := by
      rw [← List.splitOn_append_cons_self, absolute_eq present, String.toList_ofList]
      rfl
    _ = [] :: elements.map String.toList := by
      rw [splitOn_joinElements (by simpa using present) plain]
      rfl

theorem clean_absolute {elements : List String} (present : elements ≠ [])
    (ordinary : ∀ element ∈ elements, Ordinary element.toList) :
    clean (absolute elements) = absolute elements := by
  have plain : ∀ element ∈ elements.map String.toList, Ordinary element := by
    simpa using ordinary
  have rooted : ((absolute elements).toList.head? == some '/') = true := by
    simp [absolute_eq present]
  rw [clean, rooted, splitOn_absolute present ordinary]
  simp [cleanStep, foldl_cleanStep_ordinary plain, absolute_eq present]

/-- Joined below the root, the elements that are not empty stay as they are. -/
theorem join_root {elements : List String} (present : elements.filter (· ≠ "") ≠ [])
    (ordinary : ∀ element ∈ elements, element ≠ "" → Ordinary element.toList) :
    join ["/", join elements] = absolute (elements.filter (· ≠ "")) := by
  generalize kept : elements.filter (· ≠ "") = named at present
  have plain : ∀ element ∈ named.map String.toList, Ordinary element := by
    subst kept
    intro element member
    obtain ⟨text, listed, rfl⟩ := List.mem_map.mp member
    obtain ⟨listed, nonempty⟩ := List.mem_filter.mp listed
    exact ordinary text listed (by simpa using nonempty)
  have some : named.map String.toList ≠ [] := by simpa using present
  have inner : join elements = String.ofList (joinElements (named.map String.toList)) := by
    unfold join
    rw [kept]
    split
    · exact absurd rfl present
    · exact clean_joinElements some plain
  have filled : join elements ≠ "" := by
    obtain ⟨char, rest, joined, -⟩ := exists_joinElements_cons some plain
    simp [inner, joined, ← String.toList_inj]
  have outer : ["/", join elements].filter (· ≠ "") = ["/", join elements] := by
    simp [filled]
  rw [join, outer, absolute_eq present, ← clean_double_slash some plain, inner]
  simp [joinElements]

end Kperf.Path
