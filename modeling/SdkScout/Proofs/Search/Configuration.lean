import Mathlib.Data.List.Basic
import Mathlib.Data.List.Induction
import SdkScout.Search

/-!
# Chains of configuration

Settings for different keys may be made in either order (`Search.apply_comm`), and a setting that
replaces overrides an earlier one for the same method (`Search.apply_override`). So every chain comes
to the same as its settings method by method (`Search.applyAll_eq_blocks`), of which only the last one
counts where they replace each other. A search is configured by calls, whose arguments are turned into
settings first (`Search.Call.setting?`); what a chain of calls comes to depends on the last call of
each method that replaces and on all calls of the two that add (`Search.CallsAlike.configure_eq`).
-/

namespace SdkScout.Search

variable {a b : Setting} {as bs : List Setting}

/-- The key that a setting is for. -/
def Setting.key : Setting → String
  | .developerDirectory _ => "developer_dir"
  | .commandLineTools _ => "command_line_tools"
  | .defaultXcode _ => "default_system_xcode"
  | .systemXcodes _ => "system_xcodes"
  | .addDeveloperDirectory _ => "additional_developer_dirs"
  | .addSdksDirectory _ => "additional_sdks_dirs"
  | .platform _ => "platform"
  | .minimum _ => "minimum_version"
  | .maximum _ => "maximum_version"

theorem applyAll_append (s : Search) (as bs : List Setting) :
    s.applyAll (as ++ bs) = (s.applyAll as).applyAll bs :=
  List.foldl_append

/-- Settings for different keys do not get in the way of each other. -/
theorem apply_comm (h : a.key ≠ b.key) (s : Search) :
    (s.apply a).apply b = (s.apply b).apply a := by
  cases a <;> cases b <;> first | rfl | exact absurd rfl h

theorem applyAll_apply_comm (h : ∀ a ∈ as, a.key ≠ b.key) (s : Search) :
    (s.applyAll as).apply b = (s.apply b).applyAll as := by
  induction as generalizing s with
  | nil => rfl
  | cons a as ih =>
    have hfirst : a.key ≠ b.key := h a List.mem_cons_self
    have hrest : ∀ a ∈ as, a.key ≠ b.key := fun a ha => h a (List.mem_cons_of_mem _ ha)
    calc ((s.apply a).applyAll as).apply b
        = ((s.apply a).apply b).applyAll as := ih hrest (s.apply a)
      _ = ((s.apply b).apply a).applyAll as := by rw [apply_comm hfirst]

theorem applyAll_comm (h : ∀ a ∈ as, ∀ b ∈ bs, a.key ≠ b.key) (s : Search) :
    (s.applyAll as).applyAll bs = (s.applyAll bs).applyAll as := by
  induction bs generalizing s with
  | nil => rfl
  | cons b bs ih =>
    have hfirst : ∀ a ∈ as, a.key ≠ b.key := fun a ha => h a ha b List.mem_cons_self
    have hrest : ∀ a ∈ as, ∀ b ∈ bs, a.key ≠ b.key := fun a ha b hb =>
      h a ha b (List.mem_cons_of_mem _ hb)
    calc ((s.applyAll as).apply b).applyAll bs
        = ((s.apply b).applyAll as).applyAll bs := by rw [applyAll_apply_comm hfirst]
      _ = ((s.apply b).applyAll bs).applyAll as := ih hrest (s.apply b)

/-- Settings that come in blocks with different keys may be made block by block in any order. -/
theorem applyAll_flatMap_of_perm {κ : Type} {block : κ → List Setting}
    (hblock : ∀ k l, k ≠ l → ∀ a ∈ block k, ∀ b ∈ block l, a.key ≠ b.key) {ks ks' : List κ}
    (hperm : ks.Perm ks') (s : Search) :
    s.applyAll (ks.flatMap block) = s.applyAll (ks'.flatMap block) := by
  have hcomm (s : Search) (k l : κ) :
      (s.applyAll (block k)).applyAll (block l) = (s.applyAll (block l)).applyAll (block k) := by
    by_cases hkl : k = l
    · rw [hkl]
    · exact applyAll_comm (hblock k l hkl) s
  simp only [applyAll, List.foldl_flatMap]
  exact hperm.foldl_eq' (fun k _ l _ s => hcomm s k l) s

/-! ## Settings method by method -/

/-- The ways of configuring a search. -/
inductive Method
  | developerDirectory
  | commandLineTools
  | defaultXcode
  | systemXcodes
  | addDeveloperDirectory
  | addSdksDirectory
  | platform
  | minimum
  | maximum
  deriving DecidableEq

namespace Method

def all : List Method :=
  [developerDirectory, commandLineTools, defaultXcode, systemXcodes, addDeveloperDirectory,
    addSdksDirectory, platform, minimum, maximum]

/-- Whether a method adds to what is there. Any other replaces it. -/
def isAddition : Method → Bool
  | addDeveloperDirectory | addSdksDirectory => true
  | _ => false

theorem all_nodup : all.Nodup := by decide

theorem mem_all (m : Method) : m ∈ all := by
  cases m <;> decide

end Method

def Setting.method : Setting → Method
  | .developerDirectory _ => .developerDirectory
  | .commandLineTools _ => .commandLineTools
  | .defaultXcode _ => .defaultXcode
  | .systemXcodes _ => .systemXcodes
  | .addDeveloperDirectory _ => .addDeveloperDirectory
  | .addSdksDirectory _ => .addSdksDirectory
  | .platform _ => .platform
  | .minimum _ => .minimum
  | .maximum _ => .maximum

theorem Setting.method_eq_of_key_eq (h : a.key = b.key) : a.method = b.method := by
  cases a <;> cases b <;> simp [Setting.key, Setting.method] at h ⊢

/-- A setting that replaces leaves nothing of an earlier one. -/
theorem apply_override (h : a.method = b.method) (hreplaces : a.method.isAddition = false)
    (s : Search) : (s.apply a).apply b = s.apply b := by
  cases a <;> cases b <;> simp_all [Setting.method, Method.isAddition, apply]

/-- The settings of a method among others. -/
def ofMethod (m : Method) (as : List Setting) : List Setting :=
  as.filter (·.method = m)

theorem method_of_mem_ofMethod {m : Method} (h : a ∈ ofMethod m as) : a.method = m := by
  simpa using (List.mem_filter.mp h).2

theorem ofMethod_key_ne {k l : Method} (h : k ≠ l) :
    ∀ a ∈ ofMethod k as, ∀ b ∈ ofMethod l as, a.key ≠ b.key := by
  intro a ha b hb hkey
  have hmethod := Setting.method_eq_of_key_eq hkey
  rw [method_of_mem_ofMethod ha, method_of_mem_ofMethod hb] at hmethod
  exact h hmethod

/-- A chain may be sorted by methods. -/
theorem applyAll_eq_blocks (s : Search) (as : List Setting) :
    s.applyAll as = s.applyAll (Method.all.flatMap (ofMethod · as)) := by
  induction as using List.reverseRecOn with
  | nil => rfl
  | append_singleton as a ih =>
    -- The block of the new setting is moved to the end, where the setting is added to it.
    have hperm : Method.all.Perm (Method.all.erase a.method ++ [a.method]) :=
      (List.perm_cons_erase (Method.mem_all _)).trans (List.perm_append_singleton _ _).symm
    have hothers : (Method.all.erase a.method).flatMap (ofMethod · (as ++ [a])) =
        (Method.all.erase a.method).flatMap (ofMethod · as) := by
      refine List.flatMap_congr fun m hm => ?_
      have hne : a.method ≠ m := fun h =>
        Method.all_nodup.not_mem_erase (h ▸ hm)
      simp [ofMethod, hne]
    have hblock : ofMethod a.method (as ++ [a]) = ofMethod a.method as ++ [a] := by
      simp [ofMethod]
    calc s.applyAll (as ++ [a])
        = (s.applyAll (Method.all.flatMap (ofMethod · as))).apply a := by
          rw [applyAll_append, ih]
          rfl
      _ = (s.applyAll ((Method.all.erase a.method ++ [a.method]).flatMap (ofMethod · as))).apply a := by
          rw [applyAll_flatMap_of_perm (fun _ _ => ofMethod_key_ne) hperm]
      _ = s.applyAll ((Method.all.erase a.method ++ [a.method]).flatMap (ofMethod · (as ++ [a]))) := by
          simp only [List.flatMap_append, List.flatMap_singleton, hothers, hblock, applyAll_append]
          rfl
      _ = s.applyAll (Method.all.flatMap (ofMethod · (as ++ [a]))) :=
          (applyAll_flatMap_of_perm (fun _ _ => ofMethod_key_ne) hperm s).symm

/-- The settings of a method that count: all of them, or the last one if they replace each other. -/
def essential (m : Method) (as : List Setting) : List Setting :=
  if m.isAddition then ofMethod m as else (ofMethod m as).getLast?.toList

/-- Of settings that replace each other the last one is left. -/
theorem applyAll_eq_getLast? {m : Method} (hm : m.isAddition = false)
    (h : ∀ a ∈ as, a.method = m) (s : Search) : s.applyAll as = s.applyAll as.getLast?.toList := by
  induction as generalizing s with
  | nil => rfl
  | cons a as ih =>
    cases as with
    | nil => rfl
    | cons b rest =>
      obtain ⟨ha, hrest⟩ := List.forall_mem_cons.mp h
      have hlast : (b :: rest).getLast (by simp) ∈ b :: rest := List.getLast_mem _
      calc s.applyAll (a :: b :: rest)
          = (s.apply a).applyAll (b :: rest).getLast?.toList := ih hrest (s.apply a)
        _ = (s.apply a).apply ((b :: rest).getLast (by simp)) := by
            rw [List.getLast?_eq_some_getLast (by simp)]
            rfl
        _ = s.apply ((b :: rest).getLast (by simp)) :=
            apply_override (ha.trans (hrest _ hlast).symm) (ha ▸ hm) s
        _ = s.applyAll (a :: b :: rest).getLast?.toList := by
            rw [List.getLast?_cons_cons, List.getLast?_eq_some_getLast (by simp)]
            rfl

/-- The normal form of a chain. -/
theorem applyAll_eq_essential (s : Search) (as : List Setting) :
    s.applyAll as = s.applyAll (Method.all.flatMap (essential · as)) := by
  have hblock (s : Search) (m : Method) :
      s.applyAll (ofMethod m as) = s.applyAll (essential m as) := by
    rw [essential]
    split
    · rfl
    · rename_i hm
      exact applyAll_eq_getLast? (by simpa using hm) (fun _ => method_of_mem_ofMethod) s
  rw [applyAll_eq_blocks, applyAll, applyAll, List.foldl_flatMap, List.foldl_flatMap]
  congr 1
  funext s m
  exact hblock s m

/-! ## Calls -/

namespace Call

def method : Call → Method
  | .developerDirectory _ => .developerDirectory
  | .commandLineTools _ => .commandLineTools
  | .defaultXcode _ => .defaultXcode
  | .systemXcodes _ => .systemXcodes
  | .addDeveloperDirectory _ => .addDeveloperDirectory
  | .addSdksDirectory _ => .addSdksDirectory
  | .platform _ => .platform
  | .minimum _ => .minimum
  | .maximum _ => .maximum

/-- The directory that a call adds. -/
def directory? : Call → Option Path
  | .addDeveloperDirectory directory | .addSdksDirectory directory => directory.path?
  | _ => none

theorem method_of_setting? {c : Call} (h : c.setting? = some a) : a.method = c.method := by
  cases c <;> simp [setting?] at h
  case addDeveloperDirectory | addSdksDirectory | platform | minimum | maximum =>
    obtain ⟨_, -, rfl⟩ := h
    rfl
  all_goals
    subst h
    rfl

end Call

/-- The calls of a method among others. -/
def callsOf (m : Method) (cs : List Call) : List Call :=
  cs.filter (·.method = m)

/-- Chains with the same last call of each method that replaces, and with the same calls of each method
that adds. -/
structure CallsAlike (cs ds : List Call) : Prop where
  last : ∀ m : Method, m.isAddition = false → (callsOf m cs).getLast? = (callsOf m ds).getLast?
  all : ∀ m : Method, m.isAddition = true → callsOf m cs = callsOf m ds

variable {s t : Search} {cs ds : List Call}

theorem configure_cons {c : Call} : s.configure (c :: cs) = (s.call? c).bind (·.configure cs) := rfl

theorem configure_append : s.configure (cs ++ ds) = (s.configure cs).bind (·.configure ds) :=
  List.foldlM_append

/-- A chain succeeds if all of its calls do, and comes to their settings. -/
theorem configure_eq_some_iff : s.configure cs = some t ↔
    (∀ c ∈ cs, c.setting?.isSome) ∧ t = s.applyAll (cs.filterMap Call.setting?) := by
  induction cs generalizing s with
  | nil =>
    constructor
    · rintro ⟨⟩
      exact ⟨by simp, rfl⟩
    · rintro ⟨-, rfl⟩
      rfl
  | cons c cs ih =>
    rw [configure_cons, call?]
    cases h : c.setting? with
    | none => simp [h]
    | some a =>
      have hc : c.setting?.isSome = true := by rw [h, Option.isSome_some]
      rw [Option.map_some, Option.bind_some, ih, List.forall_mem_cons, List.filterMap_cons_some h]
      exact and_congr_left fun _ => (and_iff_right hc).symm

/-- Picking out the settings of a method is picking out its calls. -/
theorem ofMethod_filterMap (m : Method) (cs : List Call) :
    ofMethod m (cs.filterMap Call.setting?) = (callsOf m cs).filterMap Call.setting? := by
  induction cs with
  | nil => rfl
  | cons c cs ih =>
    have hmethod : ∀ a, c.setting? = some a → a.method = c.method := fun _ => Call.method_of_setting?
    rw [ofMethod, callsOf] at ih ⊢
    cases h : c.setting? <;> by_cases hm : c.method = m <;> simp_all

theorem getLast?_filterMap {α β : Type} {f : α → Option β} {xs : List α}
    (h : ∀ x ∈ xs, (f x).isSome) : (xs.filterMap f).getLast? = xs.getLast?.bind f := by
  rcases xs.eq_nil_or_concat with rfl | ⟨xs, x, rfl⟩
  · rfl
  · obtain ⟨y, hy⟩ := Option.isSome_iff_exists.mp (h x (by simp))
    simp [hy]

/-- Alike chains make the same settings, as far as these count. -/
theorem CallsAlike.essential_eq (h : CallsAlike cs ds) (hcs : ∀ c ∈ cs, c.setting?.isSome)
    (hds : ∀ d ∈ ds, d.setting?.isSome) (m : Method) :
    essential m (cs.filterMap Call.setting?) = essential m (ds.filterMap Call.setting?) := by
  rw [essential, essential, ofMethod_filterMap, ofMethod_filterMap]
  cases hm : m.isAddition with
  | true => rw [h.all m hm]
  | false =>
    have hcs' : ∀ c ∈ callsOf m cs, c.setting?.isSome := fun c hc => hcs c (List.mem_of_mem_filter hc)
    have hds' : ∀ d ∈ callsOf m ds, d.setting?.isSome := fun d hd => hds d (List.mem_of_mem_filter hd)
    rw [if_neg (by simp), if_neg (by simp), getLast?_filterMap hcs', getLast?_filterMap hds',
      h.last m hm]

/-- Alike chains come to the same search. -/
theorem CallsAlike.configure_eq {u : Search} (h : CallsAlike cs ds) (ht : s.configure cs = some t)
    (hu : s.configure ds = some u) : t = u := by
  obtain ⟨hcs, rfl⟩ := configure_eq_some_iff.mp ht
  obtain ⟨hds, rfl⟩ := configure_eq_some_iff.mp hu
  rw [applyAll_eq_essential s (cs.filterMap _), applyAll_eq_essential s (ds.filterMap _)]
  exact congrArg s.applyAll (List.flatMap_congr fun m _ => h.essential_eq hcs hds m)

/-- Calls of different methods may change places, even if one of them fails. -/
theorem configure_comm {c d : Call} (h : c.method ≠ d.method) (s : Search) :
    s.configure [c, d] = s.configure [d, c] := by
  simp only [configure, List.foldlM_cons, List.foldlM_nil, call?, Option.bind_eq_bind]
  cases hc : c.setting? with
  | none => cases d.setting? <;> rfl
  | some a =>
    cases hd : d.setting? with
    | none => rfl
    | some b =>
      have hkey : a.key ≠ b.key := fun hkey => h (by
        rw [← Call.method_of_setting? hc, ← Call.method_of_setting? hd]
        exact Setting.method_eq_of_key_eq hkey)
      exact congrArg some (apply_comm hkey s)

/-- A call that replaces makes an earlier one of its method count for nothing, unless that fails. -/
theorem configure_override {c d : Call} (h : c.method = d.method)
    (hreplaces : c.method.isAddition = false) (hc : c.setting?.isSome) (s : Search) :
    s.configure [c, d] = s.configure [d] := by
  obtain ⟨a, ha⟩ := Option.isSome_iff_exists.mp hc
  simp only [configure, List.foldlM_cons, List.foldlM_nil, call?, Option.bind_eq_bind, ha,
    Option.map_some, Option.bind_some]
  cases hd : d.setting? with
  | none => rfl
  | some b =>
    have hmethod : a.method = b.method := by
      rw [Call.method_of_setting? ha, Call.method_of_setting? hd, h]
    exact congrArg some (apply_override hmethod (Call.method_of_setting? ha ▸ hreplaces) s)

/-- The directories of either kind are those that were there, and then those that are added. -/
theorem directories_of_configure (h : s.configure cs = some t) :
    t.developerDirectories = s.developerDirectories ++
        (callsOf .addDeveloperDirectory cs).filterMap Call.directory? ∧
      t.sdksDirectories = s.sdksDirectories ++
        (callsOf .addSdksDirectory cs).filterMap Call.directory? := by
  induction cs generalizing s with
  | nil =>
    cases h
    simp [callsOf]
  | cons c cs ih =>
    rw [configure_cons] at h
    obtain ⟨r, hr, h⟩ := Option.bind_eq_some_iff.mp h
    obtain ⟨a, ha, rfl⟩ := Option.map_eq_some_iff.mp hr
    obtain ⟨hdeveloper, hsdks⟩ := ih h
    rw [hdeveloper, hsdks]
    cases c <;> simp [Call.setting?] at ha
    case addDeveloperDirectory | addSdksDirectory =>
      obtain ⟨p, hp, rfl⟩ := ha
      simp [apply, callsOf, Call.method, Call.directory?, hp]
    case platform | minimum | maximum =>
      obtain ⟨_, -, rfl⟩ := ha
      simp [apply, callsOf, Call.method]
    all_goals
      subst ha
      simp [apply, callsOf, Call.method]

/-! ## Branches -/

/-- A call on one of the searches that there are already. -/
structure Branch where
  /-- The place of the search among them. -/
  base : Nat
  call : Call

/-- What there is after a call: what there was, and the search that the call gives unless it fails. -/
def branch (searches : List Search) (b : Branch) : List Search :=
  searches ++ (searches[b.base]?.bind (·.call? b.call)).toList

theorem prefix_branch (searches : List Search) (b : Branch) : searches <+: branch searches b :=
  List.prefix_append _ _

/-- No search is lost or moved by later calls. -/
theorem prefix_foldl_branch (searches : List Search) (bs : List Branch) :
    searches <+: bs.foldl branch searches := by
  induction bs generalizing searches with
  | nil => exact List.prefix_refl _
  | cons b bs ih => exact (prefix_branch searches b).trans (ih _)

/-- A search that a chain of some of the calls comes to. -/
def IsConfigured (s : Search) (bs : List Branch) (t : Search) : Prop :=
  ∃ cs : List Call, cs.Sublist (bs.map (·.call)) ∧ s.configure cs = some t

/-- However the calls branch, each search comes from a chain of its own. -/
theorem isConfigured_of_mem_foldl_branch {bs : List Branch} {t : Search}
    (h : t ∈ bs.foldl branch [s]) : s.IsConfigured bs t := by
  induction bs using List.reverseRecOn generalizing t with
  | nil => exact ⟨[], .slnil, by rw [List.mem_singleton.mp h]; rfl⟩
  | append_singleton bs b ih =>
    rw [List.foldl_append, List.foldl_cons, List.foldl_nil, branch, List.mem_append] at h
    rcases h with h | h
    · obtain ⟨cs, hcs, ht⟩ := ih h
      exact ⟨cs, by simpa using hcs.trans (List.sublist_append_left _ _), ht⟩
    · obtain ⟨r, hr, ht⟩ := Option.bind_eq_some_iff.mp (Option.mem_toList.mp h)
      obtain ⟨cs, hcs, hr⟩ := ih (List.mem_of_getElem? hr)
      refine ⟨cs ++ [b.call], by simpa using hcs.append (List.Sublist.refl [b.call]), ?_⟩
      rw [configure_append, hr, Option.bind_some, configure_cons, ht]
      rfl

/-- What a chain of calls comes to is settled by the last call of each method that replaces and by the
calls of each method that adds. So calls of different methods commute, a call that replaces overrides
an earlier one, and additions come in their order. No search changes when it, or another one, is called
on: every search there is stays in its place, and is what a chain of its own comes to. -/
theorem configure_depends_on_own_calls (s : Search) :
    (∀ cs ds, CallsAlike cs ds → ∀ t u, s.configure cs = some t → s.configure ds = some u → t = u) ∧
      (∀ c d : Call, c.method ≠ d.method → s.configure [c, d] = s.configure [d, c]) ∧
      (∀ c d : Call, c.method = d.method → c.method.isAddition = false → c.setting?.isSome →
        s.configure [c, d] = s.configure [d]) ∧
      (∀ cs t, s.configure cs = some t →
        t.developerDirectories = s.developerDirectories ++
            (callsOf .addDeveloperDirectory cs).filterMap Call.directory? ∧
          t.sdksDirectories = s.sdksDirectories ++
            (callsOf .addSdksDirectory cs).filterMap Call.directory?) ∧
      ∀ before after : List Branch,
        before.foldl branch [s] <+: (before ++ after).foldl branch [s] ∧
          ∀ t ∈ (before ++ after).foldl branch [s], s.IsConfigured (before ++ after) t := by
  refine ⟨fun cs ds h t u => h.configure_eq, fun c d h => configure_comm h s,
    fun c d h hreplaces hc => configure_override h hreplaces hc s,
    fun cs t => directories_of_configure, fun before after => ⟨?_, fun t => ?_⟩⟩
  · rw [List.foldl_append]
    exact prefix_foldl_branch _ after
  · exact isConfigured_of_mem_foldl_branch

def phoneCalls : List Call :=
  [.platform (.plain (.text "MacOSX")), .addSdksDirectory (.plain (.text "/opt/sdks")),
    .minimum (.version ⟨"11.0"⟩), .platform (.known .iphoneOs),
    .addSdksDirectory (.path (.ofString "/srv/sdks"))]

/-- The same calls in another order, with the platform called for once and the minimum twice. -/
def phoneCallsSorted : List Call :=
  [.minimum (.plain (.int 12)), .minimum (.version ⟨"11.0"⟩), .platform (.known .iphoneOs),
    .addSdksDirectory (.plain (.text "/opt/sdks")),
    .addSdksDirectory (.path (.ofString "/srv/sdks"))]

theorem configure_depends_on_own_calls_phone :
    CallsAlike phoneCalls phoneCallsSorted ∧ ∃ t, ({} : Search).configure phoneCalls = some t ∧
      ({} : Search).configure phoneCallsSorted = some t ∧ t.platform = some ⟨"iPhoneOS"⟩ ∧
      t.minimum = some ⟨"11.0"⟩ ∧
      t.sdksDirectories = [.ofString "/opt/sdks", .ofString "/srv/sdks"] := by
  have halike : CallsAlike phoneCalls phoneCallsSorted :=
    ⟨fun m _ => by cases m <;> rfl, fun m hm => by cases m <;> first | rfl | nomatch hm⟩
  have hsorted : ∃ u, ({} : Search).configure phoneCallsSorted = some u := ⟨_, rfl⟩
  obtain ⟨u, hu⟩ := hsorted
  obtain ⟨hsettled, -⟩ := configure_depends_on_own_calls {}
  refine ⟨halike, _, rfl, ?_, rfl, rfl, rfl⟩
  rw [hsettled _ _ halike _ _ rfl hu, hu]

end SdkScout.Search
