import BalancerSync.Proofs.Cloud.Plan

/-!
# Plans that converge

A pass computes its plan from the load balancer as it is stored, so a pass that was cut short is
followed by one with another plan.  Here is what makes that harmless: a *convergent* plan can be
carried out, leaves nothing to do behind, and from wherever it was cut the next plan leads to the
same load balancer with the same outcome.

Most plans are convergent because each call takes itself off the plan (`Stepwise`).  Plans that
concern different aspects are convergent together, since neither sees what the other has done.

## Main Definitions

* `Convergent` — a plan that can be cut anywhere
* `Stepwise` — a plan from which each call takes itself off
* `Concerns` — the aspects that a plan reads and changes

## Main Results

* `Stepwise.convergent`
* `Convergent.bind`, `Convergent.sequence` — plans for different aspects in a row
-/

namespace BalancerSync.Cloud

variable {α : Type} {f g : LoadBalancer → Plan Unit} {as bs : List Aspect}

/-- A plan that can be carried out, that leaves nothing to do behind, and that can be cut anywhere:
what is planned from there leads to the same end. -/
structure Convergent (f : LoadBalancer → Plan Unit) : Prop where
  carries : ∀ {lb : LoadBalancer}, lb.Distinct →
    ∃ fin, revised? (f lb).calls lb = some fin ∧ (f fin).calls = []
  resumes : ∀ {lb mid : LoadBalancer} {made left : List Call}, lb.Distinct →
    (f lb).calls = made ++ left → revised? made lb = some mid →
      revised? (f mid).calls mid = revised? (f lb).calls lb ∧ (f mid).outcome = (f lb).outcome

/-- Once its first call is made, the plan is what it was without that call. -/
def Stepwise (f : LoadBalancer → Plan Unit) : Prop :=
  ∀ ⦃lb : LoadBalancer⦄ ⦃c : Call⦄ ⦃cs : List Call⦄, lb.Distinct → (f lb).calls = c :: cs →
    ∃ new, c.revise? lb = some new ∧ f new = ⟨cs, (f lb).outcome⟩

namespace Stepwise

/-- By induction on the calls: the first one can be made, and the plan is then one call shorter. -/
theorem carries (hf : Stepwise f) {lb : LoadBalancer} (hd : lb.Distinct) :
    ∃ fin, revised? (f lb).calls lb = some fin ∧ (f fin).calls = [] := by
  generalize hcs : (f lb).calls = cs
  induction cs generalizing lb with
  | nil => exact ⟨lb, rfl, hcs⟩
  | cons c cs ih =>
    obtain ⟨new, hnew, hrest⟩ := hf hd hcs
    obtain ⟨fin, hfin, hnil⟩ := ih (distinct_revise? hd hnew) (by rw [hrest])
    refine ⟨fin, ?_, hnil⟩
    rw [revised?_cons, hnew]
    exact hfin

/-- By induction on the calls that were made: after each the plan is what is left of it. -/
theorem resumes (hf : Stepwise f) {lb mid : LoadBalancer} {made left : List Call}
    (hd : lb.Distinct) (hcs : (f lb).calls = made ++ left) (hmade : revised? made lb = some mid) :
    revised? (f mid).calls mid = revised? (f lb).calls lb ∧ (f mid).outcome = (f lb).outcome := by
  induction made generalizing lb with
  | nil =>
    obtain rfl := Option.some.inj hmade
    exact ⟨rfl, rfl⟩
  | cons c made ih =>
    obtain ⟨new, hnew, hrest⟩ := hf hd hcs
    rw [revised?_cons, hnew] at hmade
    obtain ⟨hend, houtcome⟩ := ih (distinct_revise? hd hnew) (by rw [hrest]; rfl) hmade
    rw [hrest] at hend houtcome
    refine ⟨?_, houtcome⟩
    rw [hend, hcs, List.cons_append, revised?_cons, hnew]
    rfl

/-- Most plans are shown to be convergent in this way.  It takes a look at their first call only. -/
theorem convergent (hf : Stepwise f) : Convergent f := ⟨hf.carries, hf.resumes⟩

end Stepwise

/-! ### Aspects of a plan -/

/-- A plan that reads these aspects of a load balancer only, and changes no others. -/
structure Concerns (as : List Aspect) (f : LoadBalancer → Plan Unit) : Prop where
  heeds : ∀ {x y : LoadBalancer}, (∀ a ∈ as, x.SameIn a y) → f x = f y
  touches : ∀ {lb : LoadBalancer}, ∀ c ∈ (f lb).calls, ∃ a ∈ as, c.aspect? = some a

namespace Concerns

/-- What a plan for other aspects has done goes unnoticed. -/
theorem eq_of_revised? (hf : Concerns as f) {lb new : LoadBalancer} {cs : List Call}
    (h : revised? cs lb = some new) (hcs : ∀ c ∈ cs, ∀ a ∈ as, c.aspect? ≠ some a) :
    f lb = f new :=
  hf.heeds fun a ha => sameIn_revised? h fun c hc => hcs c hc a ha

/-- The calls of a plan for these aspects concern no aspect that is not among them. -/
theorem aspect?_ne (hf : Concerns as f) (hdisjoint : ∀ a ∈ as, a ∉ bs) {lb : LoadBalancer}
    {c : Call} (hc : c ∈ (f lb).calls) : ∀ b ∈ bs, c.aspect? ≠ some b := by
  obtain ⟨a, ha, haspect⟩ := hf.touches c hc
  intro b hb h
  rw [haspect] at h
  exact hdisjoint a ha (Option.some.inj h ▸ hb)

/-- A plan consists of changes. -/
theorem isMutation (hf : Concerns as f) {lb : LoadBalancer} :
    ∀ c ∈ (f lb).calls, c.isMutation = true := by
  intro c hc
  obtain ⟨a, -, haspect⟩ := hf.touches c hc
  exact isMutation_of_aspect? haspect

theorem make_nil : Concerns [] fun _ => Plan.make [] :=
  ⟨fun _ => rfl, fun c hc => by cases hc⟩

theorem within (hf : Concerns as f) (operation : String) :
    Concerns as fun lb => (f lb).within operation :=
  ⟨fun h => by rw [hf.heeds h], hf.touches⟩

/-- What a plan begins with may be computed beforehand, as long as it does not depend on the load
balancer. -/
theorem ofExcept_bind (x : Except Error α) {h : α → LoadBalancer → Plan Unit}
    (hh : ∀ a, x = .ok a → Concerns as (h a)) :
    Concerns as fun lb => (Plan.ofExcept x).bind fun a => h a lb := by
  cases x with
  | error e => exact ⟨fun _ => rfl, fun c hc => by cases hc⟩
  | ok a => exact hh a rfl

theorem bind (hf : Concerns as f) (hg : Concerns bs g) :
    Concerns (as ++ bs) fun lb => (f lb).bind fun _ => g lb := by
  refine ⟨fun h => ?_, fun {lb} c hc => ?_⟩
  · rw [hf.heeds fun a ha => h a (List.mem_append_left bs ha),
      hg.heeds fun b hb => h b (List.mem_append_right as hb)]
  · cases ho : (f lb).outcome with
    | error e =>
      rw [Plan.bind_of_error ho] at hc
      obtain ⟨a, ha, haspect⟩ := hf.touches c hc
      exact ⟨a, List.mem_append_left bs ha, haspect⟩
    | ok u =>
      rw [Plan.bind_of_ok ho] at hc
      rcases List.mem_append.1 hc with hc | hc
      · obtain ⟨a, ha, haspect⟩ := hf.touches c hc
        exact ⟨a, List.mem_append_left bs ha, haspect⟩
      · obtain ⟨b, hb, haspect⟩ := hg.touches c hc
        exact ⟨b, List.mem_append_right as hb, haspect⟩

end Concerns

/-! ### Convergence of composed plans -/

namespace Convergent

/-- The end that a convergent plan leads to. -/
theorem exists_end (hf : Convergent f) {lb : LoadBalancer} (hd : lb.Distinct) :
    ∃ fin, revised? (f lb).calls lb = some fin ∧ f fin = ⟨[], (f lb).outcome⟩ := by
  obtain ⟨fin, hfin, hnil⟩ := hf.carries hd
  obtain ⟨-, houtcome⟩ := hf.resumes hd (List.append_nil _).symm hfin
  refine ⟨fin, hfin, ?_⟩
  rw [← hnil, ← houtcome]

theorem make_nil : Convergent fun _ => Plan.make [] :=
  Stepwise.convergent fun _ _ _ _ h => by cases h

theorem within (hf : Convergent f) (operation : String) :
    Convergent fun lb => (f lb).within operation := by
  refine ⟨hf.carries, fun hd hcs hmade => ?_⟩
  obtain ⟨hend, houtcome⟩ := hf.resumes hd hcs hmade
  refine ⟨hend, ?_⟩
  simp only [Plan.within, houtcome]

/-- If what is computed beforehand fails, there are no calls at all. -/
theorem ofExcept_bind (x : Except Error α) {h : α → LoadBalancer → Plan Unit}
    (hh : ∀ a, x = .ok a → Convergent (h a)) :
    Convergent fun lb => (Plan.ofExcept x).bind fun a => h a lb := by
  cases x with
  | error e => exact Stepwise.convergent fun _ _ _ _ h => by cases h
  | ok a => exact hh a rfl

/-- Convergent plans for different aspects are convergent in a row. -/
theorem bind (hf : Convergent f) (hg : Convergent g) (hcf : Concerns as f) (hcg : Concerns bs g)
    (hdisjoint : ∀ a ∈ as, a ∉ bs) : Convergent fun lb => (f lb).bind fun _ => g lb := by
  have hdisjoint' : ∀ b ∈ bs, b ∉ as := fun b hb ha => hdisjoint b ha hb
  refine ⟨fun {lb} hd => ?_, fun {lb mid made left} hd hcs hmade => ?_⟩
  · obtain ⟨end₁, hend₁, hf₁⟩ := hf.exists_end hd
    cases ho : (f lb).outcome with
    | error e =>
      refine ⟨end₁, ?_, ?_⟩
      · rwa [Plan.bind_of_error ho]
      · rw [ho] at hf₁
        rw [hf₁, Plan.bind_of_error rfl]
    | ok u =>
      -- The second plan does not see what the first one has done, nor the other way round.
      have hg₁ : g lb = g end₁ := hcg.eq_of_revised? hend₁ fun c hc => hcf.aspect?_ne hdisjoint hc
      obtain ⟨end₂, hend₂, hg₂⟩ := hg.exists_end (distinct_revised? hd hend₁)
      have hf₂ : f end₁ = f end₂ :=
        hcf.eq_of_revised? hend₂ fun c hc => hcg.aspect?_ne hdisjoint' hc
      refine ⟨end₂, ?_, ?_⟩
      · rw [Plan.bind_of_ok ho, revised?_append, hend₁, hg₁]
        exact hend₂
      · rw [← hf₂, hf₁, ho, Plan.bind_of_ok rfl, hg₂]
        rfl
  · cases ho : (f lb).outcome with
    | error e =>
      rw [Plan.bind_of_error ho] at hcs ⊢
      obtain ⟨hend, houtcome⟩ := hf.resumes hd hcs hmade
      rw [Plan.bind_of_error (houtcome.trans ho)]
      exact ⟨hend, rfl⟩
    | ok u =>
      rw [Plan.bind_of_ok ho] at hcs ⊢
      rcases List.append_eq_append_iff.1 hcs with ⟨made', hmade', hleft⟩ | ⟨left', hleft, hrest⟩
      · -- The first plan is done; the cut is within the second one.
        obtain ⟨end₁, hend₁, hf₁⟩ := hf.exists_end hd
        rw [hmade', revised?_append, hend₁] at hmade
        have hg₁ : g lb = g end₁ := hcg.eq_of_revised? hend₁ fun c hc => hcf.aspect?_ne hdisjoint hc
        have hmem : ∀ c ∈ made', c ∈ (g lb).calls := fun c hc => by
          rw [hleft]
          exact List.mem_append_left left hc
        have hf₂ : f end₁ = f mid :=
          hcf.eq_of_revised? hmade fun c hc => hcg.aspect?_ne hdisjoint' (hmem c hc)
        obtain ⟨hend, houtcome⟩ :=
          hg.resumes (distinct_revised? hd hend₁) (by rw [← hg₁, hleft]) hmade
        rw [← hf₂, hf₁, ho, Plan.bind_of_ok rfl]
        refine ⟨?_, houtcome.trans (by rw [hg₁])⟩
        calc
          revised? (g mid).calls mid = revised? (g end₁).calls end₁ := hend
          _ = revised? ((f lb).calls ++ (g lb).calls) lb := by
            rw [revised?_append, hend₁, hg₁]
            rfl
      · -- The cut is within the first plan.
        obtain ⟨hend, houtcome⟩ := hf.resumes hd hleft hmade
        have hmem : ∀ c ∈ made, c ∈ (f lb).calls := fun c hc => by
          rw [hleft]
          exact List.mem_append_left left' hc
        have hg₁ : g lb = g mid :=
          hcg.eq_of_revised? hmade fun c hc => hcf.aspect?_ne hdisjoint (hmem c hc)
        rw [Plan.bind_of_ok (houtcome.trans ho), revised?_append, revised?_append, hend, hg₁]
        exact ⟨rfl, rfl⟩

/-- Convergent plans for one aspect each, no aspect twice, are convergent in a row. -/
theorem sequence {parts : List (Aspect × (LoadBalancer → Plan Unit))}
    (hparts : ∀ p ∈ parts, Convergent p.2 ∧ Concerns [p.1] p.2)
    (hnodup : (parts.map (·.1)).Nodup) :
    (Convergent fun lb => .sequence (parts.map fun p => p.2 lb)) ∧
      Concerns (parts.map (·.1)) fun lb => .sequence (parts.map fun p => p.2 lb) := by
  induction parts with
  | nil => exact ⟨make_nil, Concerns.make_nil⟩
  | cons p parts ih =>
    obtain ⟨⟨hf, hcf⟩, hparts⟩ := List.forall_mem_cons.1 hparts
    rw [List.map_cons, List.nodup_cons] at hnodup
    obtain ⟨hg, hcg⟩ := ih hparts hnodup.2
    refine ⟨hf.bind hg hcf hcg fun a ha => ?_, hcf.bind hcg⟩
    rw [List.mem_singleton.1 ha]
    exact hnodup.1

end Convergent

end BalancerSync.Cloud
