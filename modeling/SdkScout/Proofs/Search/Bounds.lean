import SdkScout.Proofs.Search.Schedule
import SdkScout.Proofs.Version.KeyOrder

/-!
# Version bounds

Bounds do not change where a search looks. A search with bounds finds those SDKs of the search without
them that have a version within the bounds, in the same order (`Search.run_within_eq_filter`), as long
as every version that it comes to is ordered at all. Narrower bounds find no more, and bounds that
exclude each other find nothing.
-/

namespace SdkScout.Search

variable {s : Search} {w : World} {kind : SdkKind} {lower upper : Option Version}

structure Unbounded (s : Search) : Prop where
  minimum : s.minimum = none
  maximum : s.maximum = none

/-- The search with bounds set; one that is not given stays as it is. -/
def within (s : Search) (lower upper : Option Version) : Search :=
  s.applyAll (lower.toList.map .minimum ++ upper.toList.map .maximum)

/-- What bounds let through: all SDKs if none is set, and else those with a version within them. -/
def passes (lower upper : Option Version) (sdk : Sdk) : Bool :=
  lower = none ∧ upper = none ∨ ∃ v ∈ sdk.version?, v.Within lower upper

/-- Bounds let nothing through that others do not: they are set where the others are, and lie
between them. -/
structure Narrows (lower' upper' lower upper : Option Version) : Prop where
  lower : ∀ b ∈ lower, ∃ b' ∈ lower', b.key ≤ b'.key
  upper : ∀ b ∈ upper, ∃ b' ∈ upper', b'.key ≤ b.key

/-- Without oversized versions a bound is met or not, by the keys. -/
theorem satisfies_eq_ok {allowed : Ordering → Bool} {version bound : Option Version}
    (hversion : ∀ v ∈ version, ¬ v.Oversized) (hbound : ∀ b ∈ bound, ¬ b.Oversized) :
    satisfies allowed version bound =
      .ok (bound.all fun b => version.any fun v => allowed (v.key.order b.key)) := by
  cases bound with
  | none => rfl
  | some b =>
    cases version with
    | none => rfl
    | some v => simp [satisfies, Version.order_eq_ite, hversion v rfl, hbound b rfl]

theorem accepts_eq_ok {sdk : Sdk} (hsdk : ∀ v ∈ sdk.version?, ¬ v.Oversized)
    (hminimum : ∀ b ∈ s.minimum, ¬ b.Oversized) (hmaximum : ∀ b ∈ s.maximum, ¬ b.Oversized) :
    s.accepts sdk = .ok (passes s.minimum s.maximum sdk) := by
  have hpasses : passes s.minimum s.maximum sdk =
      ((s.minimum.all fun b => sdk.version?.any fun v => (v.key.order b.key).isGE) &&
        s.maximum.all fun b => sdk.version?.any fun v => (v.key.order b.key).isLE) := by
    rw [passes, Bool.eq_iff_iff]
    cases s.minimum <;> cases s.maximum <;> cases sdk.version? <;>
      simp [Version.Within, Version.Key.isGE_order_iff, Version.Key.isLE_order_iff]
  rw [accepts, satisfies_eq_ok hsdk hminimum, satisfies_eq_ok hsdk hmaximum, hpasses]
  cases s.minimum.all _ <;> rfl

/-- What passes a narrower range passes the wider one. -/
theorem passes_of_narrows {lower' upper' : Option Version} (h : Narrows lower' upper' lower upper)
    {sdk : Sdk} (hpasses : passes lower' upper' sdk = true) : passes lower upper sdk = true := by
  simp only [passes, decide_eq_true_eq] at hpasses ⊢
  rcases hpasses with ⟨rfl, rfl⟩ | ⟨v, hv, hlower, hupper⟩
  · refine .inl ⟨Option.eq_none_iff_forall_not_mem.mpr fun b hb => ?_,
      Option.eq_none_iff_forall_not_mem.mpr fun b hb => ?_⟩
    · obtain ⟨_, hb', -⟩ := h.lower b hb
      cases hb'
    · obtain ⟨_, hb', -⟩ := h.upper b hb
      cases hb'
  · refine .inr ⟨v, hv, fun b hb => ?_, fun b hb => ?_⟩
    · obtain ⟨b', hb', hle⟩ := h.lower b hb
      exact hle.trans (hlower b' hb')
    · obtain ⟨b', hb', hle⟩ := h.upper b hb
      exact (hupper b' hb').trans hle

/-- Bounds with the same reading let the same versions through. -/
theorem satisfies_congr {bound bound' : Option Version}
    (h : bound.map Version.normalized = bound'.map Version.normalized) (allowed : Ordering → Bool)
    (version : Option Version) : satisfies allowed version bound = satisfies allowed version bound' := by
  cases bound with
  | none =>
    obtain rfl : bound' = none := by simpa [eq_comm] using h
    rfl
  | some b =>
    obtain ⟨b', rfl, hb⟩ := Option.map_eq_some_iff.mp h.symm
    cases version with
    | none => rfl
    | some v => simp only [satisfies, Version.order, Version.sortKey, hb]

/-- Bounds that have a reading matter by it alone. -/
theorem run_eq_of_normalized {t : Search} (hbounds : s.WellBounded)
    (hminimum : s.minimum.map Version.normalized = t.minimum.map Version.normalized)
    (hmaximum : s.maximum.map Version.normalized = t.maximum.map Version.normalized)
    (hroots : s.roots w = t.roots w) (hplatform : s.platform = t.platform) :
    s.run w kind = t.run w kind := by
  have hbounds' : t.WellBounded := by
    rintro v (hv | hv)
    · rw [hv] at hminimum
      obtain ⟨u, hu, heq⟩ := Option.map_eq_some_iff.mp hminimum
      exact heq ▸ hbounds u (.inl hu)
    · rw [hv] at hmaximum
      obtain ⟨u, hu, heq⟩ := Option.map_eq_some_iff.mp hmaximum
      exact heq ▸ hbounds u (.inr hu)
  have haccepts : s.accepts = t.accepts := by
    funext sdk
    rw [accepts, accepts, satisfies_congr hminimum, satisfies_congr hmaximum]
  refine run_congr ?_ hroots hplatform haccepts
  rw [checkBounds_eq_ok_iff.mpr hbounds, checkBounds_eq_ok_iff.mpr hbounds']

namespace Unbounded

theorem within_eq (h : s.Unbounded) (lower upper : Option Version) :
    s.within lower upper = { s with minimum := lower, maximum := upper } := by
  obtain ⟨hminimum, hmaximum⟩ := h
  cases s
  cases hminimum
  cases hmaximum
  cases lower <;> cases upper <;> rfl

theorem accepts (h : s.Unbounded) (sdk : Sdk) : s.accepts sdk = .ok true := by
  simp [Search.accepts, satisfies, h.minimum, h.maximum]

/-- A search without bounds keeps all that it finds. -/
theorem selection_eq (h : s.Unbounded) (roots : List SearchRoot) : s.selection w kind roots =
    (s.searchedDirectories w roots).flatMap (enumeration w kind) := by
  refine List.filter_eq_self.mpr fun sdk _ => ?_
  rw [admits, h.accepts]
  rfl

/-- Bounds are a filter: they change neither the directories that are searched nor their order. -/
theorem run_within {found : List Sdk} (h : s.Unbounded) (hrun : (s.run w kind).result = .ok found)
    (hfound : ∀ sdk ∈ found, ∀ v ∈ sdk.version?, ¬ v.Oversized)
    (hbounds : (s.within lower upper).WellBounded) :
    ((s.within lower upper).run w kind).result = .ok (found.filter (passes lower upper)) := by
  obtain ⟨-, roots, hroots, hcompletes, rfl⟩ := run_eq_ok_iff.mp hrun
  rw [h.selection_eq] at hfound ⊢
  rw [h.within_eq] at hbounds ⊢
  have hreadable : ∀ b, lower = some b ∨ upper = some b → ¬ b.Oversized := fun b hb =>
    (hbounds b hb).elim fun _ hkey => Version.not_oversized_of_normalized hkey
  have haccepts : ∀ sdk ∈ (s.searchedDirectories w roots).flatMap (enumeration w kind),
      Search.accepts { s with minimum := lower, maximum := upper } sdk =
        .ok (passes lower upper sdk) := fun sdk hsdk =>
    accepts_eq_ok (hfound sdk hsdk) (fun b hb => hreadable b (.inl hb))
      (fun b hb => hreadable b (.inr hb))
  have hadmits : ∀ sdk ∈ (s.searchedDirectories w roots).flatMap (enumeration w kind),
      admits { s with minimum := lower, maximum := upper } sdk = passes lower upper sdk :=
    fun sdk hsdk => by rw [admits, haccepts sdk hsdk]; rfl
  refine run_eq_ok_iff.mpr ⟨hbounds, roots, hroots, ?_, List.filter_congr hadmits⟩
  refine ⟨hcompletes.expands, hcompletes.enumerates, fun directory hdirectory sdk hsdk => ?_⟩
  have hmem := List.mem_flatMap.mpr ⟨directory, hdirectory, hsdk⟩
  rw [haccepts sdk hmem, hadmits sdk hmem]

end Unbounded

/-- Setting bounds filters what a search finds: those SDKs remain that have a version within the
bounds. So narrower bounds find a part of what wider ones do, none being the widest, and nothing lies
within bounds that exclude each other. -/
theorem run_within_eq_filter {found : List Sdk} (h : s.Unbounded)
    (hrun : (s.run w kind).result = .ok found)
    (hfound : ∀ sdk ∈ found, ∀ v ∈ sdk.version?, ∀ part ∈ v.components, ¬ Version.IsOverlong part) :
    (∀ lower upper, (s.within lower upper).WellBounded → (lower ≠ none ∨ upper ≠ none) →
        ((s.within lower upper).run w kind).result =
          .ok (found.filter fun sdk => ∃ v ∈ sdk.version?, v.Within lower upper)) ∧
      (∀ lower upper lower' upper', (s.within lower upper).WellBounded →
        (s.within lower' upper').WellBounded → Narrows lower' upper' lower upper →
        ∃ few many, ((s.within lower' upper').run w kind).result = .ok few ∧
          ((s.within lower upper).run w kind).result = .ok many ∧ few.Sublist many) ∧
      ∀ lower upper, (s.within (some lower) (some upper)).WellBounded → upper.key < lower.key →
        ((s.within (some lower) (some upper)).run w kind).result = .ok [] := by
  have hreadable : ∀ sdk ∈ found, ∀ v ∈ sdk.version?, ¬ v.Oversized := fun sdk hsdk v hv =>
    Version.not_oversized_of_not_isOverlong (hfound sdk hsdk v hv)
  refine ⟨fun lower upper hbounds hset => ?_, fun lower upper lower' upper' hwide hnarrow hle => ?_,
    fun lower upper hbounds hcross => ?_⟩
  · have hnot : ¬ (lower = none ∧ upper = none) := by tauto
    rw [h.run_within hrun hreadable hbounds]
    refine congrArg Except.ok (List.filter_congr fun sdk _ => ?_)
    simp only [passes, hnot, false_or]
  · refine ⟨_, _, h.run_within hrun hreadable hnarrow, h.run_within hrun hreadable hwide, ?_⟩
    exact List.monotone_filter_right found fun sdk => passes_of_narrows hle
  · rw [h.run_within hrun hreadable hbounds]
    refine congrArg Except.ok (List.filter_eq_nil_iff.mpr fun sdk _ hpasses => ?_)
    rcases of_decide_eq_true hpasses with ⟨hnone, -⟩ | ⟨v, -, hlower, hupper⟩
    · cases hnone
    · exact absurd ((hlower lower rfl).trans (hupper upper rfl)) hcross.not_ge

/-- A directory with a malformed, a missing and two well-formed versions. -/
def versionsWorld : World :=
  .ofTree [(opt, .directory {} [(⟨"MacOSX13.beta.sdk", by decide⟩, .directory {} []),
    (⟨"DriverKit.sdk", by decide⟩, .directory {} []), (⟨"MacOSX14.2.sdk", by decide⟩, .directory {} []),
    (⟨"iPhoneOS12.sdk", by decide⟩, .directory {} [])])]

def versionsSearch : Search where
  sdksDirectories := [.ofString "/opt"]

/-- With an upper bound alone, the malformed version stays and the missing one goes. -/
theorem run_within_eq_filter_malformed :
    versionsSearch.Unbounded ∧
      (versionsSearch.within none (some ⟨"12.0"⟩)).WellBounded ∧
      ∃ found, (versionsSearch.run versionsWorld .unparsed).result = .ok found ∧
        found.map (·.version?) = [some ⟨"13.beta"⟩, none, some ⟨"14.2"⟩, some ⟨"12"⟩] ∧
        (∀ sdk ∈ found, ∀ v ∈ sdk.version?, ∀ part ∈ v.components, ¬ Version.IsOverlong part) ∧
        ((versionsSearch.within none (some ⟨"12.0"⟩)).run versionsWorld .unparsed).result =
          .ok (found.filter fun sdk => ∃ v ∈ sdk.version?, v.Within none (some ⟨"12.0"⟩)) ∧
        (((versionsSearch.within none (some ⟨"12.0"⟩)).run versionsWorld .unparsed).result.map
          fun sdks => sdks.map (·.version?)).toOption = some [some ⟨"13.beta"⟩, some ⟨"12"⟩] := by
  have hversions : ((versionsSearch.run versionsWorld .unparsed).result.map fun sdks =>
      sdks.map (·.version?)).toOption =
        some [some ⟨"13.beta"⟩, none, some ⟨"14.2"⟩, some ⟨"12"⟩] := by
    decide +kernel
  have hbounds : (versionsSearch.within none (some ⟨"12.0"⟩)).WellBounded := by
    rintro v (hv | hv)
    · cases hv
    · cases hv
      exact ⟨⟨12, 0, 0⟩, by decide +kernel⟩
  obtain ⟨found, hrun, hfound⟩ := Except.map_eq_ok_iff.mp (Except.toOption_eq_some_iff.mp hversions)
  have hshort : ∀ sdk ∈ found, ∀ v ∈ sdk.version?, ∀ part ∈ v.components,
      ¬ Version.IsOverlong part := by
    intro sdk hsdk v hv
    have hmem : some v ∈ found.map (·.version?) := List.mem_map.mpr ⟨sdk, hsdk, hv⟩
    simp only [hfound, List.mem_cons, Option.some.injEq, reduceCtorEq, List.not_mem_nil,
      false_or, or_false] at hmem
    rcases hmem with rfl | rfl | rfl <;> decide +kernel
  refine ⟨⟨rfl, rfl⟩, hbounds, found, hrun, hfound, hshort, ?_, by decide +kernel⟩
  exact (run_within_eq_filter ⟨rfl, rfl⟩ hrun hshort).1 none _ hbounds (.inr nofun)

end SdkScout.Search
