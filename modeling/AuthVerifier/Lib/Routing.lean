import Mathlib.Data.List.Infix
import Mathlib.Data.List.Nodup
import Mathlib.Data.List.Perm.Basic

/-!
Routing tables. The first scope whose base stands in front of the path has the request, and in it
the first resource with the method and the pattern of the rest; nobody else is asked. Where a table
says nothing about the order in which it is written down, that is because no two of its entries
want the same request.
-/

set_option autoImplicit false

namespace Routing

section
variable {α : Type} {p : α → Bool} {l l' : List α} {a b : α}

theorem before_or_before (ha : a ∈ l) (hb : b ∈ l) (hne : a ≠ b) :
    [a, b].Sublist l ∨ [b, a].Sublist l := by
  induction l with
  | nil => cases ha
  | cons c l ih =>
    rcases List.mem_cons.mp ha with rfl | ha'
    · have hb' := List.mem_of_ne_of_mem (Ne.symm hne) hb
      exact .inl ((List.singleton_sublist.mpr hb').cons_cons a)
    · rcases List.mem_cons.mp hb with rfl | hb'
      · exact .inr ((List.singleton_sublist.mpr ha').cons_cons b)
      · exact (ih ha' hb').imp (fun h => h.cons c) (fun h => h.cons c)

theorem not_before_of_find? (hnodup : l.Nodup) (hfind : l.find? p = some b) (ha : p a = true) :
    ¬ [a, b].Sublist l := by
  intro hbefore
  obtain ⟨_, cs, ds, rfl, hcs⟩ := List.find?_eq_some_iff_append.mp hfind
  obtain ⟨xs, ys, heq, hxs, hys⟩ := List.sublist_append_iff.mp hbefore
  cases xs with
  | cons x xs =>
    obtain ⟨rfl, _⟩ := List.cons.inj heq
    have hno := hcs a (hxs.subset List.mem_cons_self)
    simp [ha] at hno
  | nil =>
    rw [List.nil_append] at heq
    subst heq
    have hds : b ∉ ds := (List.nodup_cons.mp (List.nodup_append.mp hnodup).2.1).1
    cases hys with
    | cons _ h => exact hds (h.subset (by simp))
    | cons_cons _ h => exact hds (h.subset (by simp))

theorem find?_eq_of_perm (hperm : l'.Perm l) (hnodup : l.Nodup)
    (horder : ∀ a b, p a = true → p b = true → [a, b].Sublist l → [a, b].Sublist l') :
    l'.find? p = l.find? p := by
  cases hfind : l.find? p with
  | none =>
    rw [List.find?_eq_none] at hfind ⊢
    exact fun a ha => hfind a (hperm.mem_iff.mp ha)
  | some a =>
    have ha := List.find?_some hfind
    have hmem := List.mem_of_find?_eq_some hfind
    cases hfind' : l'.find? p with
    | none =>
      rw [List.find?_eq_none] at hfind'
      exact absurd ha (hfind' a (hperm.mem_iff.mpr hmem))
    | some b =>
      have hb := List.find?_some hfind'
      have hmem' := hperm.mem_iff.mp (List.mem_of_find?_eq_some hfind')
      by_contra hne
      have hne : a ≠ b := fun heq => hne (congrArg some heq.symm)
      rcases before_or_before hmem hmem' hne with h | h
      · exact not_before_of_find? (hperm.nodup_iff.mpr hnodup) hfind' ha (horder a b ha hb h)
      · exact not_before_of_find? hnodup hfind hb h

theorem find?_eq_some_of_before (hnodup : l.Nodup) (hbefore : [a, b].Sublist l) (ha : p a = true)
    (honly : ∀ c ∈ l, p c = true → c = a ∨ c = b) : l.find? p = some a := by
  cases hfind : l.find? p with
  | none =>
    rw [List.find?_eq_none] at hfind
    exact absurd ha (hfind a (hbefore.subset List.mem_cons_self))
  | some c =>
    rcases honly c (List.mem_of_find?_eq_some hfind) (List.find?_some hfind) with rfl | rfl
    · rfl
    · exact absurd hbefore (not_before_of_find? hnodup hfind ha)

end

inductive Segment where
  | literal (s : String)
  | dynamic
  deriving DecidableEq

def Segment.admits (test : String → Bool) : Segment → Bool
  | .literal s => test s
  | .dynamic => true

def capture : List Segment → List String → Option (List String)
  | [], [] => some []
  | .literal s :: pattern, x :: path => if s = x then capture pattern path else none
  | .dynamic :: pattern, x :: path =>
    if x = "" then none else (capture pattern path).map (x :: ·)
  | _, _ => none

def instantiate : List Segment → List String → List String
  | .literal s :: pattern, values => s :: instantiate pattern values
  | .dynamic :: pattern, value :: values => value :: instantiate pattern values
  | _, _ => []

def dynamics (pattern : List Segment) : Nat := pattern.countP (fun s => s = .dynamic)

theorem capture_eq_some_iff {pattern : List Segment} {path values : List String} :
    capture pattern path = some values ↔ path = instantiate pattern values ∧
      values.length = dynamics pattern ∧ ∀ value ∈ values, value ≠ "" := by
  induction pattern generalizing path values with
  | nil =>
    cases path with
    | nil => cases values <;> simp [capture, instantiate, dynamics]
    | cons x path => simp [capture, instantiate]
  | cons s pattern ih =>
    cases s with
    | literal s =>
      cases path with
      | nil => simp [capture, instantiate]
      | cons x path =>
        rw [capture, instantiate, List.cons.injEq]
        have hcount : dynamics (.literal s :: pattern) = dynamics pattern := by simp [dynamics]
        rw [hcount]
        by_cases hs : s = x
        · rw [if_pos hs, ih]
          simp [hs]
        · simp [hs, Ne.symm hs]
    | dynamic =>
      have hcount : dynamics (.dynamic :: pattern) = dynamics pattern + 1 := by simp [dynamics]
      cases path with
      | nil =>
        cases values with
        | nil => simp [capture, hcount]
        | cons value values => simp [capture, instantiate]
      | cons x path =>
        rw [capture, hcount]
        cases values with
        | nil => by_cases hx : x = "" <;> simp [hx, instantiate]
        | cons value values =>
          rw [instantiate, List.cons.injEq, List.length_cons, Nat.add_right_cancel_iff,
            List.forall_mem_cons]
          by_cases hx : x = ""
          · subst hx
            simp only [if_true, reduceCtorEq, false_iff]
            rintro ⟨⟨rfl, _⟩, _, hne, _⟩
            exact hne rfl
          · rw [if_neg hx, Option.map_eq_some_iff]
            constructor
            · rintro ⟨vs, hvs, heq⟩
              cases heq
              obtain ⟨hpath, hlength, hne⟩ := ih.mp hvs
              exact ⟨⟨rfl, hpath⟩, hlength, hx, hne⟩
            · rintro ⟨⟨rfl, hpath⟩, hlength, _, hne⟩
              exact ⟨values, ih.mpr ⟨hpath, hlength, hne⟩, rfl⟩

theorem mem_instantiate {pattern : List Segment} {values : List String} {value : String}
    (hlength : values.length = dynamics pattern) (h : value ∈ values) :
    value ∈ instantiate pattern values := by
  induction pattern generalizing values with
  | nil =>
    rw [List.length_eq_zero_iff.mp hlength] at h
    cases h
  | cons s pattern ih =>
    cases s with
    | literal s =>
      have hcount : dynamics (.literal s :: pattern) = dynamics pattern := by simp [dynamics]
      exact List.mem_cons_of_mem s (ih (hlength.trans hcount) h)
    | dynamic =>
      have hcount : dynamics (.dynamic :: pattern) = dynamics pattern + 1 := by simp [dynamics]
      cases values with
      | nil => cases h
      | cons v values =>
        rcases List.mem_cons.mp h with rfl | h
        · exact List.mem_cons_self
        · rw [List.length_cons, hcount, Nat.add_right_cancel_iff] at hlength
          exact List.mem_cons_of_mem v (ih hlength h)

theorem of_mem_instantiate {pattern : List Segment} {values : List String} {value : String}
    (h : value ∈ instantiate pattern values) : .literal value ∈ pattern ∨ value ∈ values := by
  induction pattern generalizing values with
  | nil => cases h
  | cons s pattern ih =>
    cases s with
    | literal s =>
      rcases List.mem_cons.mp h with rfl | h
      · exact .inl List.mem_cons_self
      · exact (ih h).imp_left (List.mem_cons_of_mem _)
    | dynamic =>
      cases values with
      | nil => cases h
      | cons v values =>
        rcases List.mem_cons.mp h with rfl | h
        · exact .inr List.mem_cons_self
        · exact (ih h).imp (List.mem_cons_of_mem _) (List.mem_cons_of_mem v)

def Segment.meets : Segment → Segment → Bool
  | .literal s, .literal t => s = t
  | _, _ => true

def overlap : List Segment → List Segment → Bool
  | [], [] => true
  | s :: pattern, t :: pattern' => s.meets t && overlap pattern pattern'
  | _, _ => false

theorem overlap_of_capture {pattern pattern' : List Segment} {path : List String}
    (h : (capture pattern path).isSome = true) (h' : (capture pattern' path).isSome = true) :
    overlap pattern pattern' = true := by
  induction path generalizing pattern pattern' with
  | nil =>
    cases pattern with
    | cons s pattern => cases s <;> simp [capture] at h
    | nil =>
      cases pattern' with
      | nil => rfl
      | cons t pattern' => cases t <;> simp [capture] at h'
  | cons x path ih =>
    cases pattern with
    | nil => simp [capture] at h
    | cons s pattern =>
      cases pattern' with
      | nil => simp [capture] at h'
      | cons t pattern' =>
        have hrest : (capture pattern path).isSome = true := by
          cases s with
          | literal s =>
            rw [capture] at h
            split at h
            · exact h
            · simp at h
          | dynamic =>
            rw [capture] at h
            split at h
            · simp at h
            · simpa using h
        have hrest' : (capture pattern' path).isSome = true := by
          cases t with
          | literal t =>
            rw [capture] at h'
            split at h'
            · exact h'
            · simp at h'
          | dynamic =>
            rw [capture] at h'
            split at h'
            · simp at h'
            · simpa using h'
        have hmeets : s.meets t = true := by
          cases s with
          | dynamic => rfl
          | literal s =>
            cases t with
            | dynamic => rfl
            | literal t =>
              rw [capture] at h h'
              split at h
              · split at h'
                · rename_i hs ht
                  simp [Segment.meets, hs, ht]
                · simp at h'
              · simp at h
        rw [overlap, hmeets, ih hrest hrest']
        rfl

structure Resource (Method Handler : Type) where
  methods : List Method
  pattern : List Segment
  handler : Handler
  deriving DecidableEq

/-- The layers of a scope are in front of all that it answers, the outermost first. -/
structure Scope (Method Layer Handler : Type) where
  base : List String
  layers : List Layer
  resources : List (Resource Method Handler)
  deriving DecidableEq

section
variable {Method Layer Handler : Type} [DecidableEq Method]

def Resource.accepts (r : Resource Method Handler) (method : Method) (path : List String) : Bool :=
  r.methods.contains method && (capture r.pattern path).isSome

def Resource.overlaps (r r' : Resource Method Handler) : Bool :=
  r.methods.any r'.methods.contains && overlap r.pattern r'.pattern

def Scope.answer (s : Scope Method Layer Handler) (method : Method) (path : List String) :
    Option (Handler × List String) :=
  (s.resources.find? (fun r => r.accepts method (path.drop s.base.length))).bind fun r =>
    (capture r.pattern (path.drop s.base.length)).map (r.handler, ·)

/-- The layers that a request passes and who answers it; where nobody does, it is for the default
service behind the same layers. -/
def dispatch (app : List (Scope Method Layer Handler)) (method : Method) (path : List String) :
    List Layer × Option (Handler × List String) :=
  match app.find? (fun s => s.base.isPrefixOf path) with
  | none => ([], none)
  | some s => (s.layers, s.answer method path)

theorem Resource.overlaps_of_accepts {r r' : Resource Method Handler} {method : Method}
    {path : List String} (h : r.accepts method path = true) (h' : r'.accepts method path = true) :
    r.overlaps r' = true := by
  obtain ⟨hmethod, hpath⟩ := Bool.and_eq_true_iff.mp h
  obtain ⟨hmethod', hpath'⟩ := Bool.and_eq_true_iff.mp h'
  refine Bool.and_eq_true_iff.mpr ⟨List.any_eq_true.mpr ⟨method, ?_, hmethod'⟩,
    overlap_of_capture hpath hpath'⟩
  exact List.contains_iff_mem.mp hmethod

theorem Scope.answer_eq_some {s : Scope Method Layer Handler} {method : Method}
    {path values : List String} {handler : Handler}
    (h : s.answer method path = some (handler, values)) :
    ∃ r ∈ s.resources, r.handler = handler ∧ method ∈ r.methods ∧
      capture r.pattern (path.drop s.base.length) = some values := by
  obtain ⟨r, hfind, hr⟩ := Option.bind_eq_some_iff.mp h
  obtain ⟨vs, hvs, heq⟩ := Option.map_eq_some_iff.mp hr
  cases heq
  have haccepts : r.accepts method (path.drop s.base.length) = true := by
    simpa using List.find?_some hfind
  obtain ⟨hmethod, _⟩ := Bool.and_eq_true_iff.mp haccepts
  exact ⟨r, List.mem_of_find?_eq_some hfind, rfl, List.contains_iff_mem.mp hmethod, hvs⟩

theorem of_dispatch {app : List (Scope Method Layer Handler)} {method : Method}
    {path values : List String} {handler : Handler}
    (h : (dispatch app method path).2 = some (handler, values)) :
    ∃ s ∈ app, ∃ r ∈ s.resources, r.handler = handler ∧ method ∈ r.methods ∧
      path = s.base ++ instantiate r.pattern values ∧ values.length = dynamics r.pattern ∧
      ∀ value ∈ values, value ≠ "" := by
  unfold dispatch at h
  cases hs : app.find? (fun s => s.base.isPrefixOf path) with
  | none => simp [hs] at h
  | some s =>
    rw [hs] at h
    obtain ⟨r, hr, hhandler, hmethod, hcapture⟩ := Scope.answer_eq_some h
    obtain ⟨hrest, hlength, hne⟩ := capture_eq_some_iff.mp hcapture
    have hfound : s.base.isPrefixOf path = true := by simpa using List.find?_some hs
    have hbase := List.isPrefixOf_iff_prefix.mp hfound
    refine ⟨s, List.mem_of_find?_eq_some hs, r, hr, hhandler, hmethod, ?_, hlength, hne⟩
    rw [← hrest, List.prefix_iff_eq_append.mp hbase]

theorem dispatch_of_first {app : List (Scope Method Layer Handler)} (hnodup : app.Nodup)
    {s : Scope Method Layer Handler} (hs : s ∈ app) (hnodup' : s.resources.Nodup)
    {r : Resource Method Handler} (hr : r ∈ s.resources) {method : Method}
    (hmethod : method ∈ r.methods) {rest values : List String}
    (hcapture : capture r.pattern rest = some values)
    (hscope : ∀ t ∈ app, t.base.isPrefixOf (s.base ++ rest) = true → t = s ∨ [s, t].Sublist app)
    (hresource : ∀ t ∈ s.resources, t.accepts method rest = true →
      t = r ∨ [r, t].Sublist s.resources) :
    dispatch app method (s.base ++ rest) = (s.layers, some (r.handler, values)) := by
  have hwant : s.base.isPrefixOf (s.base ++ rest) = true :=
    List.isPrefixOf_iff_prefix.mpr (List.prefix_append s.base rest)
  have hfind : app.find? (fun t => t.base.isPrefixOf (s.base ++ rest)) = some s := by
    cases ht : app.find? (fun t => t.base.isPrefixOf (s.base ++ rest)) with
    | none => exact absurd hwant (List.find?_eq_none.mp ht s hs)
    | some t =>
      have hfound : t.base.isPrefixOf (s.base ++ rest) = true := by simpa using List.find?_some ht
      rcases hscope t (List.mem_of_find?_eq_some ht) hfound with rfl | hbefore
      · rfl
      · exact absurd hbefore (not_before_of_find? hnodup ht hwant)
  have haccepts : r.accepts method rest = true := by
    simp [Resource.accepts, hmethod, hcapture]
  have hfind' : s.resources.find? (fun t => t.accepts method rest) = some r := by
    cases ht : s.resources.find? (fun t => t.accepts method rest) with
    | none => exact absurd haccepts (List.find?_eq_none.mp ht r hr)
    | some t =>
      have hfound : t.accepts method rest = true := by simpa using List.find?_some ht
      rcases hresource t (List.mem_of_find?_eq_some ht) hfound with rfl | hbefore
      · rfl
      · exact absurd hbefore (not_before_of_find? hnodup' ht haccepts)
  rw [dispatch, hfind]
  simp only [Scope.answer, List.drop_left, hfind', Option.bind_some, hcapture, Option.map_some]

/-- The same scopes in another order, with their resources in another order. -/
structure Reordered (app' app : List (Scope Method Layer Handler)) : Prop where
  scopes : (app'.map (fun s => (s.base, s.layers))).Perm (app.map (fun s => (s.base, s.layers)))
  resources : ∀ s ∈ app, ∀ s' ∈ app', s'.base = s.base → s'.resources.Perm s.resources

structure Distinct (app : List (Scope Method Layer Handler)) : Prop where
  bases : (app.map Scope.base).Nodup
  resources : ∀ s ∈ app, s.resources.Nodup

variable {app app' : List (Scope Method Layer Handler)}

omit [DecidableEq Method] in
theorem Reordered.perm_bases (h : Reordered app' app) :
    (app'.map Scope.base).Perm (app.map Scope.base) := by
  simpa [Function.comp_def] using h.scopes.map Prod.fst

omit [DecidableEq Method] in
theorem Reordered.layers_eq (h : Reordered app' app) (hdistinct : Distinct app)
    {s s' : Scope Method Layer Handler} (hs : s ∈ app) (hs' : s' ∈ app') (hbase : s'.base = s.base) :
    s'.layers = s.layers := by
  have hmem := h.scopes.mem_iff.mp (List.mem_map_of_mem hs')
  obtain ⟨t, ht, heq⟩ := List.mem_map.mp hmem
  obtain ⟨htbase, htlayers⟩ := Prod.mk.inj heq
  have hts : t = s := List.inj_on_of_nodup_map hdistinct.bases ht hs (htbase.trans hbase)
  rw [← htlayers, hts]

/-- Scopes whose bases overlap and resources of a scope that overlap keep their order. -/
structure KeepsOverlaps (app' app : List (Scope Method Layer Handler)) : Prop where
  scopes : ∀ a b, [a, b].Sublist (app.map Scope.base) → a.isPrefixOf b ∨ b.isPrefixOf a →
    [a, b].Sublist (app'.map Scope.base)
  resources : ∀ s ∈ app, ∀ s' ∈ app', s'.base = s.base → ∀ r t, [r, t].Sublist s.resources →
    r.overlaps t = true → [r, t].Sublist s'.resources

theorem answer_eq_of_perm {s s' : Scope Method Layer Handler} (hbase : s'.base = s.base)
    (hperm : s'.resources.Perm s.resources) (hnodup : s.resources.Nodup)
    (horder : ∀ r t, [r, t].Sublist s.resources → r.overlaps t = true →
      [r, t].Sublist s'.resources) (method : Method) (path : List String) :
    s'.answer method path = s.answer method path := by
  unfold Scope.answer
  rw [hbase, find?_eq_of_perm hperm hnodup]
  exact fun r t hr ht hbefore => horder r t hbefore (Resource.overlaps_of_accepts hr ht)

theorem dispatch_eq_of_reordered (h : Reordered app' app) (hdistinct : Distinct app)
    (horder : KeepsOverlaps app' app) (method : Method) (path : List String) :
    dispatch app' method path = dispatch app method path := by
  have hfind : (app'.map Scope.base).find? (fun base => base.isPrefixOf path) =
      (app.map Scope.base).find? (fun base => base.isPrefixOf path) := by
    refine find?_eq_of_perm h.perm_bases hdistinct.bases fun a b ha hb hbefore => ?_
    refine horder.scopes a b hbefore ?_
    rw [List.isPrefixOf_iff_prefix] at ha hb ⊢
    rw [List.isPrefixOf_iff_prefix]
    exact List.prefix_or_prefix_of_prefix ha hb
  rw [List.find?_map, List.find?_map] at hfind
  simp only [Function.comp_def] at hfind
  unfold dispatch
  cases hs : app.find? (fun s => s.base.isPrefixOf path) with
  | none =>
    cases hs' : app'.find? (fun s => s.base.isPrefixOf path) with
    | none => rfl
    | some s' => simp [hs, hs'] at hfind
  | some s =>
    cases hs' : app'.find? (fun s => s.base.isPrefixOf path) with
    | none => simp [hs, hs'] at hfind
    | some s' =>
      have hbase : s'.base = s.base := by
        simpa [hs, hs'] using hfind
      have hmem := List.mem_of_find?_eq_some hs
      have hmem' := List.mem_of_find?_eq_some hs'
      simp only [Prod.mk.injEq]
      exact ⟨h.layers_eq hdistinct hmem hmem' hbase, answer_eq_of_perm hbase
        (h.resources s hmem s' hmem' hbase) (hdistinct.resources s hmem)
        (horder.resources s hmem s' hmem' hbase) method path⟩

end
end Routing
