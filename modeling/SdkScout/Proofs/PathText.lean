import Mathlib.Data.String.Basic
import SdkScout.Path

/-!
# Paths and their texts

A path is read back from its text (`Path.ofString_toString`), so every path is the path of some
text, and the text of a path shows the whole path. A component on its own is a relative path of one
part: joined to a directory it is a child of that directory (`Path.join_ofString_text`).
-/

namespace SdkScout.Path

/-- A component is read back from its text. -/
theorem Component.ofString?_text (c : Component) : Component.ofString? c.text = some c :=
  dif_pos c.valid

theorem filterMap_ofString?_text (parts : List Component) :
    ((parts.map (·.text.toList)).filterMap fun part => Component.ofString? (String.ofList part)) =
      parts := by
  rw [List.filterMap_map]
  have hread : (fun part : List Char => Component.ofString? (String.ofList part)) ∘
      (fun c : Component => c.text.toList) = some := by
    funext c
    simp [Component.ofString?_text]
  rw [hread, List.filterMap_some]

theorem toList_intercalate_text (parts : List Component) :
    ("/".intercalate (parts.map (·.text))).toList =
      ['/'].intercalate (parts.map (·.text.toList)) := by
  rw [String.toList_intercalate, List.map_map]
  rfl

/-- The text of some components starts like the first one of them, and so with no slash. -/
theorem exists_intercalate_eq_cons {parts : List Component} (hne : parts ≠ []) :
    ∃ first rest, ['/'].intercalate (parts.map (·.text.toList)) = first :: rest ∧ first ≠ '/' := by
  obtain ⟨c, cs, rfl⟩ := List.exists_cons_of_ne_nil hne
  have hc : c.text.toList ≠ [] := by simpa using c.valid.1
  obtain ⟨first, rest, htext⟩ := List.exists_cons_of_ne_nil hc
  have hfirst : first ≠ '/' := by
    rintro rfl
    exact c.valid.2.2 (by simp [htext])
  cases cs with
  | nil => exact ⟨first, rest, by simp [htext], hfirst⟩
  | cons d ds =>
    refine ⟨first, rest ++ '/' :: ['/'].intercalate ((d :: ds).map (·.text.toList)), ?_, hfirst⟩
    simp [htext]

theorem splitOn_slash_cons (text : List Char) :
    ('/' :: text).splitOn '/' = [] :: text.splitOn '/' := by
  simp [List.splitOn_cons_eq_if_modifyHead]

/-- No component holds a slash, so a text of components is split where they were joined. -/
theorem splitOn_intercalate_text {parts : List Component} (hne : parts ≠ []) :
    (['/'].intercalate (parts.map (·.text.toList))).splitOn '/' = parts.map (·.text.toList) := by
  refine List.splitOn_intercalate '/' (fun part hpart => ?_) (by simpa using hne)
  obtain ⟨c, -, rfl⟩ := List.mem_map.mp hpart
  exact c.valid.2.2

theorem toString_of_parts_ne_nil {p : Path} (hne : p.parts ≠ []) :
    p.toString = p.root.text ++ "/".intercalate (p.parts.map (·.text)) := by
  obtain ⟨first, rest, hcons, -⟩ := exists_intercalate_eq_cons hne
  have hlist := toList_intercalate_text p.parts
  rw [hcons] at hlist
  have htext : p.root.text ++ "/".intercalate (p.parts.map (·.text)) ≠ "" := by
    intro hempty
    have hnil := congrArg String.toList hempty
    simp [hlist] at hnil
  rw [toString, if_neg htext]

/-- A path is read back from its text. -/
theorem ofString_toString (p : Path) : ofString p.toString = p := by
  obtain ⟨root, parts⟩ := p
  by_cases hne : parts = []
  · subst hne
    cases root <;> decide
  · obtain ⟨first, rest, hcons, hfirst⟩ := exists_intercalate_eq_cons hne
    have hsplit := splitOn_intercalate_text hne
    have hparts := filterMap_ofString?_text parts
    rw [hcons] at hsplit
    have hempty : Component.ofString? "" = none := rfl
    have htext : (Path.toString ⟨root, parts⟩).toList = root.text.toList ++ first :: rest := by
      rw [toString_of_parts_ne_nil hne, String.toList_append, toList_intercalate_text, hcons]
    rw [ofString, htext]
    -- Each slash of the root puts one empty part before the components.
    cases root with
    | relative =>
      have hroot : Root.ofChars (first :: rest) = .relative := by simp [Root.ofChars, hfirst]
      simp [Root.text, hsplit, hparts, hroot]
    | slash =>
      have hroot : Root.ofChars ('/' :: first :: rest) = .slash := by simp [Root.ofChars, hfirst]
      simp [Root.text, splitOn_slash_cons, hsplit, hparts, hroot, hempty]
    | doubleSlash =>
      have hroot : Root.ofChars ('/' :: '/' :: first :: rest) = .doubleSlash := by
        simp [Root.ofChars, hfirst]
      simp [Root.text, splitOn_slash_cons, hsplit, hparts, hroot, hempty]

theorem ofString_text (c : Component) : ofString c.text = ⟨.relative, [c]⟩ := by
  have htext : Path.toString ⟨.relative, [c]⟩ = c.text := by
    rw [toString_of_parts_ne_nil (by simp)]
    simp [Root.text]
  rw [← htext, ofString_toString]

theorem join_ofString_text (p : Path) (c : Component) : p.join (ofString c.text) = p.child c := by
  rw [ofString_text, join, if_pos rfl]
  rfl

/-- Something with a longer ending behind it is never a lone dot. -/
theorem isComponent_append {front back : String} (hfront : '/' ∉ front.toList)
    (hback : '/' ∉ back.toList) (hlong : 1 < back.length) : IsComponent (front ++ back) := by
  have hlength : (front ++ back).length = front.length + back.length :=
    String.length_append front back
  refine ⟨fun hempty => ?_, fun hdot => ?_, by simp [hfront, hback]⟩
  · rw [hempty] at hlength
    have hzero : "".length = 0 := rfl
    omega
  · rw [hdot] at hlength
    have hone : ".".length = 1 := rfl
    omega

/-- What is joined to a path is its last name, if it is one component. -/
theorem name_join_ofString (p : Path) {text : String} (h : IsComponent text) :
    (p.join (ofString text)).name = text := by
  rw [join_ofString_text p ⟨text, h⟩, name_child]

end SdkScout.Path
