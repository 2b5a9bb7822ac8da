import BalancerSync.Cloud.Inventory

/-!
# Ordered inventories

An inventory keeps its load balancers in ascending order of their identifiers.  An identifier
therefore picks out at most one of them, and putting another load balancer in its place touches
nothing else.  Everything that is said here about a change of one load balancer rests on
`exists_split`, which cuts the list at that load balancer.

## Main Definitions

* `Inventory.Ordered` — the load balancers are in ascending order
* `Inventory.replace` — another load balancer in the place of the one with its identifier
* `Inventory.Alike` — the same load balancers and certificates, whatever identifiers were given away

## Design Notes

`Alike` forgets the last identifier given away.  Every action uses one up, so two passes that leave
the same load balancers behind need not agree on it.
-/

namespace BalancerSync.Cloud.Inventory

variable {inv other : Inventory} {id : Int} {lb old new : LoadBalancer}

/-- The load balancers are in ascending order of their identifiers. -/
def Ordered (inv : Inventory) : Prop := inv.loadBalancers.Pairwise fun a b => a.id < b.id

/-- Another load balancer in the place of the one with its identifier. -/
def replace (inv : Inventory) (lb : LoadBalancer) : Inventory := inv.modify lb.id fun _ => lb

@[simp] theorem certificates_replace (inv : Inventory) (lb : LoadBalancer) :
    (inv.replace lb).certificates = inv.certificates := rfl

/-! ### Looking up -/

theorem id_of_find? (h : inv.find? id = some lb) : lb.id = id := by
  simpa using List.find?_some h

theorem mem_of_find? (h : inv.find? id = some lb) : lb ∈ inv.loadBalancers :=
  List.mem_of_find?_eq_some h

/-- The list around the load balancer with an identifier; no other one has that identifier. -/
theorem exists_split (ho : inv.Ordered) (h : inv.find? id = some lb) :
    ∃ before after, inv.loadBalancers = before ++ lb :: after ∧
      (∀ x ∈ before, x.id ≠ id) ∧ ∀ x ∈ after, x.id ≠ id := by
  obtain ⟨before, after, hsplit⟩ := List.append_of_mem (mem_of_find? h)
  have hid := id_of_find? h
  rw [Ordered, hsplit, List.pairwise_append, List.pairwise_cons] at ho
  obtain ⟨-, ⟨hafter, -⟩, hbefore⟩ := ho
  refine ⟨before, after, hsplit, fun x hx => ?_, fun x hx => ?_⟩
  · have := hbefore x hx lb List.mem_cons_self
    omega
  · have := hafter x hx
    omega

/-- In an ordered inventory each load balancer is found by its identifier. -/
theorem find?_of_mem (ho : inv.Ordered) (h : lb ∈ inv.loadBalancers) :
    inv.find? lb.id = some lb := by
  obtain ⟨found, hfound⟩ : ∃ found, inv.find? lb.id = some found := by
    cases hf : inv.find? lb.id with
    | some found => exact ⟨found, rfl⟩
    | none => exact absurd (List.find?_eq_none.1 hf lb h) (by simp)
  obtain ⟨before, after, hsplit, hbefore, hafter⟩ := exists_split ho hfound
  rw [hsplit, List.mem_append, List.mem_cons] at h
  rcases h with h | rfl | h
  · exact absurd rfl (hbefore lb h)
  · exact hfound
  · exact absurd rfl (hafter lb h)

/-! ### One load balancer in the place of another -/

/-- A change by identifier goes past whatever has another one. -/
private theorem map_of_ne {f : LoadBalancer → LoadBalancer} {xs : List LoadBalancer}
    (h : ∀ x ∈ xs, x.id ≠ id) : (xs.map fun x => if x.id = id then f x else x) = xs := by
  calc
    _ = xs.map fun x => x := List.map_congr_left fun x hx => if_neg (h x hx)
    _ = xs := List.map_id' xs

/-- Changing one load balancer is putting the changed one in its place. -/
theorem modify_eq_replace (ho : inv.Ordered) (h : inv.find? id = some lb)
    {f : LoadBalancer → LoadBalancer} (hid : (f lb).id = id) :
    inv.modify id f = inv.replace (f lb) := by
  obtain ⟨before, after, hsplit, hbefore, hafter⟩ := exists_split ho h
  simp only [replace, modify, hsplit, hid, List.map_append, List.map_cons, map_of_ne hbefore,
    map_of_ne hafter, id_of_find? h, if_true]

/-- The list around the new load balancer is the list around the old one. -/
theorem loadBalancers_replace (ho : inv.Ordered) (h : inv.find? new.id = some old) :
    ∃ before after, inv.loadBalancers = before ++ old :: after ∧
      (inv.replace new).loadBalancers = before ++ new :: after ∧
      (∀ x ∈ before, x.id ≠ new.id) ∧ ∀ x ∈ after, x.id ≠ new.id := by
  obtain ⟨before, after, hsplit, hbefore, hafter⟩ := exists_split ho h
  refine ⟨before, after, hsplit, ?_, hbefore, hafter⟩
  simp only [replace, modify, hsplit, List.map_append, List.map_cons, map_of_ne hbefore,
    map_of_ne hafter, id_of_find? h, if_true]

/-- After a replacement there is the new load balancer, and all others as they were. -/
theorem mem_replace (ho : inv.Ordered) (h : inv.find? new.id = some old) {x : LoadBalancer} :
    x ∈ (inv.replace new).loadBalancers ↔ x = new ∨ x ∈ inv.loadBalancers ∧ x.id ≠ new.id := by
  obtain ⟨before, after, hsplit, hnew, hbefore, hafter⟩ := loadBalancers_replace ho h
  simp only [hsplit, hnew, List.mem_append, List.mem_cons]
  constructor
  · rintro (hx | rfl | hx)
    · exact .inr ⟨.inl hx, hbefore x hx⟩
    · exact .inl rfl
    · exact .inr ⟨.inr (.inr hx), hafter x hx⟩
  · rintro (rfl | ⟨hx | rfl | hx, hne⟩)
    · exact .inr (.inl rfl)
    · exact .inl hx
    · exact absurd (id_of_find? h) hne
    · exact .inr (.inr hx)

theorem replace_self (ho : inv.Ordered) (h : inv.find? lb.id = some lb) :
    inv.replace lb = inv := by
  obtain ⟨before, after, hsplit, hnew, -⟩ := loadBalancers_replace ho h
  cases inv
  simp_all [replace, modify]

/-- Of two replacements only the second counts. -/
theorem replace_replace (hid : lb.id = new.id) : (inv.replace lb).replace new = inv.replace new := by
  simp only [replace, modify, List.map_map, Inventory.mk.injEq, and_true]
  refine List.map_congr_left fun x _ => ?_
  by_cases h : x.id = new.id <;> simp [h, hid]

/-- Replacements at different identifiers do not depend on their order. -/
theorem replace_comm (hid : lb.id ≠ new.id) :
    (inv.replace lb).replace new = (inv.replace new).replace lb := by
  simp only [replace, modify, List.map_map, Inventory.mk.injEq, and_true]
  refine List.map_congr_left fun x _ => ?_
  by_cases hlb : x.id = lb.id
  · simp [hlb, hid]
  · by_cases hnew : x.id = new.id <;> simp [hlb, hnew, hid.symm]

/-- Replacements keep the order, since it is an order of identifiers. -/
theorem ordered_replace (ho : inv.Ordered) : (inv.replace lb).Ordered := by
  refine List.pairwise_map.2 (ho.imp fun {a b} hab => ?_)
  split <;> split <;> simp_all

/-- What was put there is found there. -/
theorem find?_replace (h : inv.find? id = some old) (hid : lb.id = id) :
    (inv.replace lb).find? id = some lb := by
  subst hid
  have hsame : ((fun x => x.id == lb.id) ∘ fun x : LoadBalancer => if x.id = lb.id then lb else x) =
      fun x => x.id == lb.id := by
    funext x
    by_cases hx : x.id = lb.id <;> simp [hx]
  calc (inv.replace lb).find? lb.id
      = (inv.find? lb.id).map fun x => if x.id = lb.id then lb else x := by
        rw [find?, replace, modify, List.find?_map, hsame, find?]
    _ = some lb := by rw [h, Option.map_some, if_pos (id_of_find? h)]

/-- In an ordered inventory no two load balancers have the same identifier. -/
theorem eq_of_id_eq (ho : inv.Ordered) (h : lb ∈ inv.loadBalancers) (h' : new ∈ inv.loadBalancers)
    (hid : lb.id = new.id) : lb = new := by
  have hfound := find?_of_mem ho h
  rw [hid, find?_of_mem ho h'] at hfound
  exact (Option.some.inj hfound).symm

/-! ### Labels -/

/-- A search by label finds exactly the load balancers that carry it. -/
theorem mem_labelled {key value : String} :
    lb ∈ inv.labelled key value ↔ lb ∈ inv.loadBalancers ∧ lb.labels.get? key = some value := by
  simp [labelled]

/-- A single hit is there and carries the label. -/
theorem mem_of_labelled_eq {key value : String} (h : inv.labelled key value = [lb]) :
    lb ∈ inv.loadBalancers ∧ lb.labels.get? key = some value := by
  rw [← mem_labelled, h]
  exact List.mem_singleton_self lb

/-- If nobody else has a label, then the one that gets it is the only one that has it. -/
theorem labelled_replace {key value : String} (ho : inv.Ordered)
    (h : inv.find? new.id = some old)
    (hothers : ∀ x ∈ inv.labelled key value, x.id = new.id)
    (hnew : new.labels.get? key = some value) : (inv.replace new).labelled key value = [new] := by
  obtain ⟨before, after, hsplit, hreplaced, hbefore, hafter⟩ := loadBalancers_replace ho h
  have hunlabelled : ∀ xs : List LoadBalancer, (∀ x ∈ xs, x.id ≠ new.id) →
      (∀ x ∈ xs, x ∈ inv.loadBalancers) →
      (xs.filter fun x => x.labels.get? key == some value) = [] := by
    intro xs hne hmem
    refine List.filter_eq_nil_iff.2 fun x hx hlabel => hne x hx ?_
    exact hothers x (mem_labelled.2 ⟨hmem x hx, by simpa using hlabel⟩)
  rw [labelled, hreplaced, List.filter_append, List.filter_cons,
    hunlabelled before hbefore (by simp_all), hunlabelled after hafter (by simp_all)]
  simp [hnew]

/-- A replacement among those that do not have a label changes nothing about those that have it. -/
theorem labelled_replace_of_not {key value : String} (ho : inv.Ordered)
    (h : inv.find? new.id = some old) (hold : old.labels.get? key ≠ some value)
    (hnew : new.labels.get? key ≠ some value) :
    (inv.replace new).labelled key value = inv.labelled key value := by
  obtain ⟨before, after, hsplit, hreplaced, -, -⟩ := loadBalancers_replace ho h
  rw [labelled, labelled, hsplit, hreplaced, List.filter_append, List.filter_append,
    List.filter_cons_of_neg (by simpa using hnew), List.filter_cons_of_neg (by simpa using hold)]

/-! ### Adding one -/

/-- A new identifier has its place at the end. -/
theorem place_of_lt {lbs : List LoadBalancer} (h : ∀ x ∈ lbs, x.id < lb.id) :
    place lb lbs = lbs ++ [lb] := by
  induction lbs with
  | nil => rfl
  | cons x rest ih =>
    have hx := h x List.mem_cons_self
    rw [place, if_neg (by omega), if_neg (by omega), ih fun y hy => h y (List.mem_cons_of_mem _ hy)]
    rfl

theorem mem_place {x : LoadBalancer} {lbs : List LoadBalancer} (h : x ∈ place lb lbs) :
    x = lb ∨ x ∈ lbs := by
  induction lbs with
  | nil => simpa [place] using h
  | cons y rest ih =>
    rw [place] at h
    split at h
    · simpa using h
    · split at h
      · rcases List.mem_cons.1 h with rfl | h
        · exact .inl rfl
        · exact .inr (List.mem_cons_of_mem _ h)
      · rcases List.mem_cons.1 h with rfl | h
        · exact .inr List.mem_cons_self
        · exact (ih h).imp_right (List.mem_cons_of_mem _)

/-- Placing a load balancer keeps the order. -/
theorem pairwise_place {lbs : List LoadBalancer} (h : lbs.Pairwise fun a b => a.id < b.id) :
    (place lb lbs).Pairwise fun a b => a.id < b.id := by
  induction lbs with
  | nil => simp [place]
  | cons x rest ih =>
    obtain ⟨hhead, hrest⟩ := List.pairwise_cons.1 h
    rw [place]
    split
    · refine List.pairwise_cons.2 ⟨fun y hy => ?_, h⟩
      rcases List.mem_cons.1 hy with rfl | hy
      · assumption
      · have := hhead y hy
        omega
    · split
      · rename_i hid
        exact List.pairwise_cons.2 ⟨fun y hy => hid ▸ hhead y hy, hrest⟩
      · refine List.pairwise_cons.2 ⟨fun y hy => ?_, ih hrest⟩
        rcases mem_place hy with rfl | hy
        · omega
        · exact hhead y hy

/-! ### Inventories that differ in the identifiers given away -/

/-- The same load balancers and certificates. -/
structure Alike (inv other : Inventory) : Prop where
  loadBalancers : inv.loadBalancers = other.loadBalancers
  certificates : inv.certificates = other.certificates

namespace Alike

@[refl] theorem refl (inv : Inventory) : inv.Alike inv := ⟨rfl, rfl⟩

theorem trans {third : Inventory} (h : inv.Alike other) (h' : other.Alike third) :
    inv.Alike third :=
  ⟨h.loadBalancers.trans h'.loadBalancers, h.certificates.trans h'.certificates⟩

theorem replace (h : inv.Alike other) (lb : LoadBalancer) :
    (inv.replace lb).Alike (other.replace lb) :=
  ⟨by simp only [Inventory.replace, modify, h.loadBalancers], h.certificates⟩

theorem find? (h : inv.Alike other) (id : Int) : inv.find? id = other.find? id := by
  simp only [Inventory.find?, h.loadBalancers]

theorem labelled (h : inv.Alike other) (key value : String) :
    inv.labelled key value = other.labelled key value := by
  simp only [Inventory.labelled, h.loadBalancers]

theorem ordered (h : inv.Alike other) (ho : other.Ordered) : inv.Ordered := by
  rwa [Ordered, h.loadBalancers]

end Alike

end BalancerSync.Cloud.Inventory
