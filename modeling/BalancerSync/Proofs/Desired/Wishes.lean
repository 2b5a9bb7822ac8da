import BalancerSync.Desired.Balancer

/-!
# The wishes of a Service

Reading the wishes is a row of readers, each of which can fail.  If all succeed, each wish is what
its reader has found.  A reader looks at the value of its setting, and finds nothing where there is
none.

## Main Results

* `Balancer.readFrom_of_ofService` — where the wishes come from
-/

namespace BalancerSync.Setting

open Cluster (Service)

variable {α : Type} {service other : Service} {setting : Setting}

/-- A setting that is not there is read as open. -/
theorem read_of_not_isSet (h : setting.isSet service = false) (parse : String → Except String α) :
    setting.read parse service = .ok none := by
  have hraw : setting.raw? service = none := by simpa [Setting.isSet] using h
  rw [Setting.read, hraw]

/-- A setting is read as open only if it is not there. -/
theorem read_eq_none_iff {parse : String → Except String α} :
    setting.read parse service = .ok none ↔ setting.raw? service = none := by
  rw [Setting.read]
  cases setting.raw? service with
  | none => exact iff_of_true rfl rfl
  | some value => cases hparse : parse (Text.trimmed value) <;> simp [hparse]

/-- What is read is what its value says once it is trimmed. -/
theorem read_eq_some_iff {parse : String → Except String α} {a : α} :
    setting.read parse service = .ok (some a) ↔
      ∃ value, setting.raw? service = some value ∧ parse (Text.trimmed value) = .ok a := by
  rw [Setting.read]
  cases setting.raw? service with
  | none => simp
  | some value => cases hparse : parse (Text.trimmed value) <;> simp [hparse]

/-- Reading a setting looks at its value only. -/
theorem read_congr (h : setting.raw? other = setting.raw? service)
    (parse : String → Except String α) :
    setting.read parse other = setting.read parse service := by
  rw [Setting.read, h, Setting.read]

end BalancerSync.Setting

namespace BalancerSync.Desired

open Cluster (Service)

/-- Two readers in a row succeed if the first one does and then the second. -/
theorem bind_eq_ok {α β : Type} {x : Except Error α} {f : α → Except Error β} {b : β} :
    x >>= f = .ok b ↔ ∃ a, x = .ok a ∧ f a = .ok b := by
  cases x <;> simp [bind, Except.bind]

namespace Balancer

/-- Where the wishes come from that a load balancer is compared with. -/
structure ReadFrom (service : Service) (defaults : Config.Defaults) (b : Balancer) : Prop where
  name : Desired.name service defaults = .ok b.name
  type : Setting.type.text service = .ok b.type
  algorithm : Setting.algorithm.algorithmValue service = .ok b.algorithm
  publicInterface : ∃ off, Setting.disablePublicNetwork.bool service = .ok off ∧
    b.publicInterface = off.map (!·)
  usePrivateIp : ∃ use, Setting.usePrivateIp.bool service = .ok use ∧
    b.usePrivateIp = use.getD defaults.usePrivateIp
  nodeSelector : Desired.nodeSelector service = .ok b.nodeSelector

theorem readFrom_of_ofService {service : Service} {defaults : Config.Defaults} {b : Balancer}
    (h : ofService service defaults = .ok b) : ReadFrom service defaults b := by
  simp only [ofService, bind_eq_ok] at h
  obtain ⟨name, hname, location, -, zone, -, type, htype, algorithm, halgorithm, use, huse, ip, -,
    off, hoff, ingress, -, ipv6, -, hostname, -, selector, hselector, h⟩ := h
  obtain rfl := Except.ok.inj h
  exact ⟨hname, htype, halgorithm, ⟨off, hoff, rfl⟩, ⟨use, huse, rfl⟩, hselector⟩

end Balancer

end BalancerSync.Desired
