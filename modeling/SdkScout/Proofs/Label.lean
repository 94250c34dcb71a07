import Mathlib.Data.Finset.Card
import Mathlib.Data.Finset.Dedup
import SdkScout.Label
import SdkScout.Proofs.Value.Keys

/-!
# Names that are equal

Two labels are compared by asking one of them and then the other, since a label has no answer for
types that it does not know (`Label.same_eq_asked`). Among the labels are the names: platforms, known
platforms, versions and texts. A name means a platform or a text, and two names are equal if they mean
the same (`Label.Name.same_iff`). So equality of names is an equivalence, equal names have the same
hash, and a table keeps one name for each meaning, in whatever order they come
(`Label.Name.Tabulates`).
-/

namespace SdkScout

attribute [ext] Platform Version

theorem KnownPlatform.ofName?_name (k : KnownPlatform) : ofName? k.name = some k := by
  cases k <;> rfl

theorem KnownPlatform.name_inj {k l : KnownPlatform} : k.name = l.name ↔ k = l := by
  refine ⟨fun h => ?_, congrArg name⟩
  rw [← Option.some.injEq, ← ofName?_name, h, ofName?_name]

namespace Label

/-- What a label answers when it is asked whether it equals another: nothing, if it does not know
labels of that type. A known platform knows itself only. -/
def answer? : Label → Label → Option Bool
  | .platform p, .platform q => some (p.name = q.name)
  | .platform p, .known k => some (p.name = k.name)
  | .known k, .known l => if k = l then some true else none
  | .version v, .version w => some (v.text = w.text)
  | .version v, .plain (.text s) => some (v.text = s)
  | .plain v, .plain w => some (v.same w)
  | _, _ => none

/-- The left label is asked first and then the right one. Labels without an answer differ. -/
def asked (a b : Label) : Bool :=
  ((a.answer? b).or (b.answer? a)).getD false

theorem same_plain (v w : Value) : same (.plain v) (.plain w) = v.same w := by
  cases v with
  | text s =>
    cases w with
    | text t =>
      have htext : Value.same (.text s) (.text t) = decide (s = t) :=
        Bool.eq_iff_iff.mpr (Value.sameKey_text_iff.trans decide_eq_true_iff.symm)
      rw [htext]
      simp [same, platform?, version?]
    | _ => rfl
  | _ => cases w <;> rfl

/-- It does not matter which of the two is asked first: where one has no answer, the other decides. -/
theorem same_eq_asked (a b : Label) : a.same b = a.asked b := by
  cases a with
  | platform p =>
    cases b with
    | platform q | known k =>
      simp [same, asked, answer?, platform?, Platform.ofKnown, Platform.ext_iff]
    | version w | plain w => rfl
  | known k =>
    cases b with
    | platform q =>
      simp [same, asked, answer?, platform?, Platform.ofKnown, Platform.ext_iff, eq_comm]
    | known l =>
      by_cases h : k = l
      · simp [same, asked, answer?, platform?, h]
      · simp [same, asked, answer?, platform?, Platform.ofKnown, KnownPlatform.name_inj, h,
          Ne.symm h]
    | version w | plain w => rfl
  | version v =>
    cases b with
    | platform q | known l => rfl
    | version w => simp [same, asked, answer?, platform?, version?, Version.ext_iff]
    | plain w =>
      cases w with
      | text s => simp [same, asked, answer?, platform?, version?, Version.ext_iff]
      | _ => rfl
  | plain v =>
    cases b with
    | platform q | known l => rfl
    | version w =>
      cases v with
      | text s => simp [same, asked, answer?, platform?, version?, Version.ext_iff, eq_comm]
      | _ => rfl
    | plain w => rw [same_plain, asked, answer?, Option.some_or, Option.getD_some]

/-- Adds a label to a table. It is compared only with the labels in the table that have its hash. -/
def insertHashed (hash : Value → Int) (table : List Label) (a : Label) : List Label :=
  if table.any fun b => hash b.hashed = hash a.hashed ∧ b.asked a then table else table ++ [a]

/-- The labels that are names. -/
inductive Name
  | platform (p : Platform)
  | known (k : KnownPlatform)
  | version (v : Version)
  | text (s : String)

/-- What a name stands for. -/
inductive Meaning
  | platform (name : String)
  | text (text : String)
  deriving DecidableEq

namespace Name

def label : Name → Label
  | platform p => .platform p
  | known k => .known k
  | version v => .version v
  | text s => .plain (.text s)

/-- A known platform stands for the platform of its name, and a version for its text. -/
def meaning : Name → Meaning
  | platform p => .platform p.name
  | known k => .platform k.name
  | version v => .text v.text
  | text s => .text s

variable {a b : Name} {names names' kept : List Name} {table : List Label}

/-- Names are equal if they mean the same. -/
theorem same_iff : a.label.same b.label = true ↔ a.meaning = b.meaning := by
  cases a <;> cases b <;>
    simp [label, meaning, same, platform?, version?, Platform.ofKnown, Platform.ext_iff,
      Version.ext_iff]

theorem same_equivalence : Equivalence fun a b : Name => a.label.same b.label = true where
  refl _ := same_iff.mpr rfl
  symm h := same_iff.mpr (same_iff.mp h).symm
  trans h h' := same_iff.mpr ((same_iff.mp h).trans (same_iff.mp h'))

/-- Equal names have the same hash. -/
theorem hashed_eq_of_same (h : a.label.same b.label = true) : a.label.hashed = b.label.hashed := by
  have hmeaning := same_iff.mp h
  cases a <;> cases b <;> simp_all [meaning, label, hashed]

/-- A table of names: of those that have the same meaning it holds exactly one. -/
def Tabulates (names : List Name) (table : List Label) : Prop :=
  ∃ kept : List Name, table = kept.map label ∧ (kept.map meaning).Nodup ∧
    ∀ d, d ∈ kept.map meaning ↔ d ∈ names.map meaning

/-- A way to add a name to a table, unless there is one with its meaning. -/
def IsInsertion (add : List Label → Label → List Label) : Prop :=
  ∀ (kept : List Name) (a : Name), add (kept.map label) a.label =
    if a.meaning ∈ kept.map meaning then kept.map label else kept.map label ++ [a.label]

/-- Inserting into a list without hashes is one way to insert. -/
theorem isInsertion_insert : IsInsertion insert := by
  intro kept a
  have hfound : (kept.map label).any a.label.same = true ↔ a.meaning ∈ kept.map meaning := by
    simp only [List.any_map, List.any_eq_true, Function.comp_apply, same_iff, List.mem_map,
      eq_comm (a := a.meaning)]
  rw [insert]
  exact if_congr hfound rfl rfl

/-- The hash leads to every label that is equal, whatever the hash is. -/
theorem isInsertion_insertHashed (hash : Value → Int) : IsInsertion (insertHashed hash) := by
  intro kept a
  have hfound : (kept.map label).any (fun b => hash b.hashed = hash a.label.hashed ∧
      b.asked a.label) = true ↔ a.meaning ∈ kept.map meaning := by
    simp only [List.any_map, List.any_eq_true, Function.comp_apply, decide_eq_true_eq, List.mem_map,
      ← same_eq_asked, same_iff]
    refine exists_congr fun b => and_congr_right fun _ => and_iff_right_of_imp fun hb => ?_
    rw [hashed_eq_of_same (same_iff.mpr hb)]
  rw [insertHashed]
  exact if_congr hfound rfl rfl

/-- One more name keeps the table one of all names so far. -/
theorem IsInsertion.tabulates_append {add : List Label → Label → List Label}
    (hadd : IsInsertion add) (h : Tabulates names table) (a : Name) :
    Tabulates (names ++ [a]) (add table a.label) := by
  obtain ⟨kept, rfl, hnodup, hmem⟩ := h
  rw [hadd]
  by_cases hfound : a.meaning ∈ kept.map meaning
  · rw [if_pos hfound]
    refine ⟨kept, rfl, hnodup, fun d => ?_⟩
    rw [List.map_append, List.mem_append, ← hmem]
    refine ⟨Or.inl, fun hd => hd.elim id fun hd => ?_⟩
    rw [List.mem_singleton.mp hd]
    exact hfound
  · rw [if_neg hfound]
    refine ⟨kept ++ [a], by rw [List.map_append]; rfl, ?_, fun d => ?_⟩
    · rw [List.map_append]
      exact hnodup.append (List.nodup_singleton _) (List.disjoint_singleton.mpr hfound)
    · rw [List.map_append, List.map_append, List.mem_append, List.mem_append, hmem]

theorem IsInsertion.tabulates {add : List Label → Label → List Label} (hadd : IsInsertion add)
    (names : List Name) : Tabulates names ((names.map label).foldl add []) := by
  induction names using List.reverseRecOn with
  | nil => exact ⟨[], rfl, .nil, fun d => Iff.rfl⟩
  | append_singleton names a ih =>
    rw [List.map_append, List.foldl_append]
    exact hadd.tabulates_append ih a

/-- A table of names has as many entries as there are meanings. -/
theorem Tabulates.length_eq (h : Tabulates names table) :
    table.length = (names.map meaning).toFinset.card := by
  obtain ⟨kept, rfl, hnodup, hmem⟩ := h
  have hsame : (kept.map meaning).toFinset = (names.map meaning).toFinset := by
    ext d
    rw [List.mem_toFinset, List.mem_toFinset, hmem]
  calc (kept.map label).length = (kept.map meaning).length := by
        rw [List.length_map, List.length_map]
    _ = (kept.map meaning).toFinset.card := (List.toFinset_card_of_nodup hnodup).symm
    _ = (names.map meaning).toFinset.card := by rw [hsame]

/-- Names are equal if they mean the same, and equal names hash alike. A table of names, in any order and
with any hash, holds as many as there are meanings of them. -/
theorem same_equivalence_and_distinct_eq_card :
    (∀ a b : Label, a.same b = a.asked b) ∧
      (Equivalence fun a b : Name => a.label.same b.label = true) ∧
      (∀ a b : Name, a.label.same b.label = true ↔ a.meaning = b.meaning) ∧
      (∀ a b : Name, a.label.same b.label = true → a.label.hashed = b.label.hashed) ∧
      ∀ names names' : List Name, names.Perm names' →
        distinct (names'.map label) = (names.map meaning).toFinset.card ∧
          ∀ hash, ((names'.map label).foldl (insertHashed hash) []).length =
            (names.map meaning).toFinset.card := by
  refine ⟨same_eq_asked, same_equivalence, fun a b => same_iff, fun a b => hashed_eq_of_same, ?_⟩
  intro names names' hperm
  rw [List.toFinset_eq_of_perm _ _ (hperm.map meaning)]
  exact ⟨(isInsertion_insert.tabulates names').length_eq, fun hash =>
    ((isInsertion_insertHashed hash).tabulates names').length_eq⟩

end Name

end Label

end SdkScout
