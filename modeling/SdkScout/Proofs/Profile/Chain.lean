import SdkScout.Proofs.Profile.Methods
import SdkScout.Proofs.Search.Configuration

/-!
# Profiles and chained configuration

Settings for different keys may be made in either order (`Search.apply_comm`). So a profile, whose keys
are checked in an order of their own, describes the search that its values ask for whichever key is
taken first (`Profile.Describes`). A profile that is refused is refused in the same way however its
keys are ordered, even if some of them are not texts.
-/

namespace SdkScout

namespace Profile

open Value (field? textEntries ofFields)

variable {w : World} {source key : String} {m : Method} {entries : List (Value × Value)}
  {fields order : List (String × Value)} {calls : List Search.Setting} {v : Value} {p : Profile}

/-- A profile is what a mapping asks for: its search is the one that the settings of the values make,
key by key in any order, and it runs as that search does. -/
structure Describes (w : World) (source : String) (fields : List (String × Value))
    (p : Profile) : Prop where
  source_eq : p.source = source
  kind :
    match fields.lookup "sdk" with
    | none => p.kind = .unparsed
    | some v => ∃ name, v = .text name ∧ SdkKind.ofName name = .ok p.kind
  search : ∀ order : List (String × Value), order.Perm fields → ∃ calls,
    List.Forall₂ (fun f c => ∃ m, (f.1, m) ∈ methods ∧ Asks w m f.2 c) order calls ∧
    p.search = ({} : Search).applyAll calls.flatten ∧
    ∀ w' : World, p.run w' = (({} : Search).applyAll calls.flatten).run w' p.kind

/-- A value asks for settings of its own key alone. -/
theorem Asks.key_eq (h : Asks w m v calls) (hmethod : (key, m) ∈ methods) :
    ∀ c ∈ calls, c.key = key := by
  cases h with
  | noDirectories | noPlatform | noBound | kind => simp
  | platform => simpa [methods, Search.Setting.key, eq_comm] using hmethod
  | flag =>
    simp only [methods, List.mem_cons, Prod.mk.injEq, reduceCtorEq, Method.flag.injEq, and_false,
      or_false, List.not_mem_nil] at hmethod
    rcases hmethod with ⟨rfl, rfl⟩ | ⟨rfl, rfl⟩ | ⟨rfl, rfl⟩ | ⟨rfl, rfl⟩ <;>
      simp [Search.Setting.key]
  | directories =>
    simp only [methods, List.mem_cons, Prod.mk.injEq, reduceCtorEq, Method.directories.injEq,
      and_false, or_false, false_or, List.not_mem_nil] at hmethod
    rcases hmethod with ⟨rfl, rfl⟩ | ⟨rfl, rfl⟩ <;> simp [Search.Setting.key]
  | bound | wholeBound =>
    simp only [methods, List.mem_cons, Prod.mk.injEq, reduceCtorEq, Method.bound.injEq,
      and_false, or_false, false_or, List.not_mem_nil] at hmethod
    rcases hmethod with ⟨rfl, rfl⟩ | ⟨rfl, rfl⟩ <;> simp [Search.Setting.key]

theorem key_of_mem_made : ∀ c ∈ made w source entries key, c.key = key := by
  rw [made]
  cases hlookup : methods.lookup key with
  | none => simp
  | some m =>
    have hmethod : (key, m) ∈ methods := (lookup_eq_some_iff_mem methods_nodup).mp hlookup
    cases hstep : step w source entries key m with
    | error => simp [hstep]
    | ok calls =>
      have hasks : AsksUnder w entries key m calls := (step_eq_ok_iff hmethod).mp hstep
      rw [AsksUnder] at hasks
      cases hv : field? entries key with
      | none => simp_all
      | some v =>
        simp only [hv] at hasks
        simpa [hstep] using hasks.key_eq hmethod

theorem key_ne_of_mem_made {k l : String} (h : k ≠ l) : ∀ a ∈ made w source entries k,
    ∀ b ∈ made w source entries l, a.key ≠ b.key := by
  intro a ha b hb
  rwa [key_of_mem_made a ha, key_of_mem_made b hb]

/-- An absent key makes no settings. -/
theorem made_of_absent (h : field? entries key = none) : made w source entries key = [] := by
  cases hlookup : methods.lookup key with
  | none => simp [made, hlookup]
  | some m =>
    have hmethod : (key, m) ∈ methods := (lookup_eq_some_iff_mem methods_nodup).mp hlookup
    have hasks : AsksUnder w entries key m [] := by rw [AsksUnder, h]
    exact hasks.made_eq hmethod

theorem isKnown_textEntries_iff : (∀ e ∈ textEntries fields, isKnown e.1 = true) ↔
    ∀ f ∈ fields, f.1 ∈ methods.map (·.1) := by
  rw [textEntries, List.forall_mem_map]
  simp only [isKnown_iff, Value.text.injEq, List.mem_map]
  exact forall₂_congr fun f _ => exists_congr fun m => and_congr_right fun _ => eq_comm

theorem made_of_not_mem (h : key ∉ fields.map (·.1)) :
    made w source (textEntries fields) key = [] := by
  refine made_of_absent ?_
  rw [Value.field?_textEntries, List.lookup_eq_none_iff]
  intro f hf
  have hne : key ≠ f.1 := fun heq => h (heq ▸ List.mem_map_of_mem hf)
  simpa using hne

/-- The keys that are checked are those that are written down, and others. -/
theorem methods_perm_append (hkeys : (fields.map (·.1)).Nodup)
    (hknown : ∀ f ∈ fields, f.1 ∈ methods.map (·.1)) :
    ∃ absent, (methods.map (·.1)).Perm (fields.map (·.1) ++ absent) ∧
      ∀ key ∈ absent, key ∉ fields.map (·.1) := by
  let present (key : String) : Bool := key ∈ fields.map (·.1)
  have hpresent : ((methods.map (·.1)).filter present).Perm (fields.map (·.1)) := by
    rw [List.perm_ext_iff_of_nodup (methods_nodup.filter _) hkeys]
    intro key
    rw [List.mem_filter, decide_eq_true_iff, and_iff_right_iff_imp]
    intro hmem
    obtain ⟨f, hf, rfl⟩ := List.mem_map.mp hmem
    exact hknown f hf
  refine ⟨(methods.map (·.1)).filter (!present ·), ?_, fun key hkey => ?_⟩
  · exact (List.filter_append_perm present _).symm.trans (hpresent.append_right _)
  · simpa [present] using (List.mem_filter.mp hkey).2

/-- The settings may be made in the order in which the keys are written down. -/
theorem applyAll_made (hkeys : (fields.map (·.1)).Nodup)
    (hknown : ∀ f ∈ fields, f.1 ∈ methods.map (·.1)) (s : Search) :
    s.applyAll (methods.flatMap fun m => made w source (textEntries fields) m.1) =
      s.applyAll (fields.flatMap fun f => made w source (textEntries fields) f.1) := by
  obtain ⟨absent, hperm, habsent⟩ := methods_perm_append hkeys hknown
  have hnone : absent.flatMap (made w source (textEntries fields)) = [] := by
    rw [List.flatMap_eq_nil_iff]
    intro key hkey
    exact made_of_not_mem (habsent key hkey)
  calc s.applyAll (methods.flatMap fun m => made w source (textEntries fields) m.1)
      = s.applyAll ((methods.map (·.1)).flatMap (made w source (textEntries fields))) := by
        rw [List.flatMap_map]
    _ = s.applyAll ((fields.map (·.1) ++ absent).flatMap (made w source (textEntries fields))) :=
        Search.applyAll_flatMap_of_perm (fun _ _ => key_ne_of_mem_made) hperm s
    _ = s.applyAll (fields.flatMap fun f => made w source (textEntries fields) f.1) := by
        rw [List.flatMap_append, hnone, List.append_nil, List.flatMap_map]

/-- Settings of different keys may be made in any order. -/
theorem applyAll_made_of_perm (horder : order.Perm fields) (s : Search) :
    s.applyAll (order.flatMap fun f => made w source entries f.1) =
      s.applyAll (fields.flatMap fun f => made w source entries f.1) := by
  have hkeys : (order.map (·.1)).Perm (fields.map (·.1)) := horder.map (·.1)
  simpa only [List.flatMap_map] using
    Search.applyAll_flatMap_of_perm (fun _ _ => key_ne_of_mem_made) hkeys s

theorem asksUnder_iff_of_mem (hkeys : (fields.map (·.1)).Nodup) {f : String × Value}
    (hf : f ∈ fields) : AsksUnder w (textEntries fields) f.1 m calls ↔ Asks w m f.2 calls := by
  have hfield : field? (textEntries fields) f.1 = some f.2 := by
    rw [Value.field?_textEntries, lookup_eq_some_iff_mem hkeys]
    exact hf
  rw [AsksUnder, hfield]

/-- What is accepted describes the profile that it is read as. -/
theorem describes_of_ofEntries (hkeys : (fields.map (·.1)).Nodup)
    (h : ofEntries w source (textEntries fields) = .ok p) : Describes w source fields p := by
  obtain ⟨hknown, hasks, hkind, hsource, hsearch⟩ := ofEntries_eq_ok_iff.mp h
  rw [isKnown_textEntries_iff] at hknown
  rw [kindOf_eq_ok_iff, Value.field?_textEntries] at hkind
  have hchain (order : List (String × Value)) (horder : order.Perm fields) :
      p.search = ({} : Search).applyAll
        (order.map fun f => made w source (textEntries fields) f.1).flatten := by
    rw [hsearch, applyAll_made hkeys hknown, ← applyAll_made_of_perm horder, List.flatMap_def]
  refine ⟨hsource, hkind, fun order horder => ⟨_, ?_, hchain order horder, fun w' => ?_⟩⟩
  · rw [List.forall₂_map_right_iff, List.forall₂_same]
    intro f hf
    have hf : f ∈ fields := horder.mem_iff.mp hf
    obtain ⟨⟨key, m⟩, hmethod, hkey⟩ := List.mem_map.mp (hknown f hf)
    obtain rfl : key = f.1 := hkey
    obtain ⟨calls, hcalls⟩ := hasks _ hmethod
    refine ⟨m, hmethod, ?_⟩
    rw [hcalls.made_eq hmethod]
    exact (asksUnder_iff_of_mem hkeys hf).mp hcalls
  · rw [run, hchain order horder]

/-- The settings of a chain are those that are made. -/
theorem eq_map_made (hkeys : (fields.map (·.1)).Nodup) {calls : List (List Search.Setting)}
    (h : List.Forall₂ (fun f c => ∃ m, (f.1, m) ∈ methods ∧ Asks w m f.2 c) fields calls) :
    calls = fields.map fun f => made w source (textEntries fields) f.1 := by
  have hmade : List.Forall₂ (fun f c => made w source (textEntries fields) f.1 = c) fields calls := by
    refine ((List.forall₂_and_left fields calls).mpr ⟨fun f hf => hf, h⟩).imp ?_
    rintro f c ⟨hf, m, hmethod, hasks⟩
    exact ((asksUnder_iff_of_mem hkeys hf).mpr hasks).made_eq hmethod
  rw [← List.forall₂_map_left_iff, List.forall₂_eq_eq_eq] at hmade
  exact hmade.symm

theorem exists_of_forall₂_left {α β : Type} {R : α → β → Prop} {xs : List α} {ys : List β}
    (h : List.Forall₂ R xs ys) {x : α} (hx : x ∈ xs) : ∃ y, R x y := by
  induction h with
  | nil => cases hx
  | cons hxy _ ih =>
    rcases List.mem_cons.mp hx with rfl | hx
    · exact ⟨_, hxy⟩
    · exact ih hx

/-- What describes a profile is accepted as that profile. -/
theorem Describes.ofEntries_eq (h : Describes w source fields p)
    (hkeys : (fields.map (·.1)).Nodup) : ofEntries w source (textEntries fields) = .ok p := by
  obtain ⟨calls, hcalls, hsearch, -⟩ := h.search fields (.refl _)
  have hknown : ∀ f ∈ fields, f.1 ∈ methods.map (·.1) := by
    intro f hf
    obtain ⟨_, m, hmethod, -⟩ := exists_of_forall₂_left hcalls hf
    exact List.mem_map_of_mem hmethod
  refine ofEntries_eq_ok_iff.mpr ⟨isKnown_textEntries_iff.mpr hknown, ?_, ?_, h.source_eq, ?_⟩
  · intro m hm
    cases hv : field? (textEntries fields) m.1 with
    | none => exact ⟨[], by rw [AsksUnder, hv]⟩
    | some v =>
      have hmem : (m.1, v) ∈ fields := by
        rwa [Value.field?_textEntries, lookup_eq_some_iff_mem hkeys] at hv
      obtain ⟨asked, m', hmethod, hasks⟩ := exists_of_forall₂_left hcalls hmem
      obtain rfl : m' = m.2 := method_unique hmethod hm
      exact ⟨asked, (asksUnder_iff_of_mem hkeys hmem).mpr hasks⟩
  · rw [kindOf_eq_ok_iff, Value.field?_textEntries]
    exact h.kind
  · rw [hsearch, applyAll_made hkeys hknown, eq_map_made hkeys hcalls, List.flatMap_def]

/-- The order of the entries does not count, not even for the failure. -/
theorem ofEntries_eq_of_perm {entries' : List (Value × Value)} (hperm : entries.Perm entries')
    (hdistinct : Value.Distinct (entries.map (·.1))) (hnan : ∀ e ∈ entries, e.1 ≠ .float .nan) :
    ofEntries w source entries = ofEntries w source entries' := by
  have hfield := Value.field?_eq_of_perm hperm hdistinct
  have hsteps : (methods.mapM fun m => step w source entries m.1 m.2) =
      methods.mapM fun m => step w source entries' m.1 m.2 :=
    Except.mapM_congr fun m hm => step_congr hm (hfield m.1)
  have hkind : kindOf source entries = kindOf source entries' := by
    rw [kindOf, kindOf, hfield]
  rw [Profile.ofEntries_eq, Profile.ofEntries_eq, checkKeys_eq_of_perm hperm hdistinct hnan, hsteps,
    hkind]

/-- A mapping with texts as keys is accepted as what its values ask for, taken key by key in any order,
and as nothing else. And whether it is accepted or refused, the order of its entries does not matter.
For this the keys may be of any kind, except for what is not a number: it is not even the same key as
itself. -/
theorem ofValue_describes_in_any_order (w : World) (source : String) :
    (∀ fields : List (String × Value), (fields.map (·.1)).Nodup → ∀ p : Profile,
      ofValue w source (ofFields fields) = .ok p ↔ Describes w source fields p) ∧
    ∀ entries entries' : List (Value × Value), entries.Perm entries' →
      Value.Distinct (entries.map (·.1)) → (∀ e ∈ entries, e.1 ≠ .float .nan) →
      ofValue w source (.mapping entries) = ofValue w source (.mapping entries') := by
  constructor
  · intro fields hkeys p
    exact ⟨describes_of_ofEntries hkeys, fun h => h.ofEntries_eq hkeys⟩
  · intro entries entries' hperm hdistinct hnan
    exact ofEntries_eq_of_perm hperm hdistinct hnan

/-- A profile with its keys in an order other than that in which they are checked. -/
def sdkFields : List (String × Value) :=
  [("maximum_version", .int 14), ("sdk", .text "Parsed"), ("platform", .null),
    ("additional_sdks_dirs", .list [.text "~/sdks", .text "/opt/sdks"]),
    ("developer_dir", .bool false)]

theorem ofValue_describes_in_any_order_sdkFields :
    (∃ p, Describes homeWorld "sdks.yaml" sdkFields p ∧
      p.search.sdksDirectories = [.ofString "/Users/tester/sdks", .ofString "/opt/sdks"] ∧
      p.search.maximum = some ⟨"14"⟩ ∧ p.kind = .parsed) ∧
    ofValue homeWorld "sdks.yaml" (ofFields sdkFields) =
      ofValue homeWorld "sdks.yaml" (ofFields sdkFields.reverse) := by
  constructor
  · refine ⟨⟨{
      developerDirectory := false
      sdksDirectories := [.ofString "/Users/tester/sdks", .ofString "/opt/sdks"]
      maximum := some ⟨"14"⟩ }, .parsed, "sdks.yaml"⟩, ?_, rfl, rfl, rfl⟩
    refine ((ofValue_describes_in_any_order homeWorld "sdks.yaml").1 sdkFields (by decide) _).mp ?_
    with_unfolding_all rfl
  · exact (ofValue_describes_in_any_order homeWorld "sdks.yaml").2 _ _
      ((List.reverse_perm sdkFields).symm.map _) (Value.distinct_textEntries (by decide))
      (by simp [Value.textEntries, sdkFields])

end Profile

end SdkScout
