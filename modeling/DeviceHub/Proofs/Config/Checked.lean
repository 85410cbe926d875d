import DeviceHub.Config.Check
import Mathlib.Data.List.Forall2

/-!
# What a checked configuration is

A check goes through a configuration part by part and stops at the first fault. Here is what it means
that it finds none: every bridge can be made and is in order, every device type has a field, and the
devices have different ids, bridges and types that there are, and are in order themselves.

* `checkDevice_eq_ok`, `checkDevices_eq_ok`: devices in order.
* `check_eq_ok`: configurations in order.
* `mapM_eq_ok`, `exists_of_mapM_eq_error`: when all bridges, or all devices, can be made.
-/
namespace DeviceHub

/-! ## Steps that can fail -/

section

variable {ε α β : Type}

theorem bind_eq_ok {x : Except ε α} {f : α → Except ε β} {b : β} :
    x >>= f = .ok b ↔ ∃ a, x = .ok a ∧ f a = .ok b := by
  cases x <;> simp [bind, Except.bind]

/-- A step that only checks something. -/
theorem check_bind_eq_ok {x : Except ε Unit} {f : Unit → Except ε β} {b : β} :
    x >>= f = .ok b ↔ x = .ok () ∧ f () = .ok b := by
  cases x <;> simp [bind, Except.bind]

/-- Going through a list succeeds when every step does. -/
theorem forM_eq_ok {f : α → Except ε Unit} {l : List α} :
    forM l f = .ok () ↔ ∀ a ∈ l, f a = .ok () := by
  induction l with
  | nil => simp [pure, Except.pure]
  | cons a l ih => simp only [List.forM_cons, check_bind_eq_ok, ih, List.forall_mem_cons]

theorem mapM_eq_ok {f : α → Except ε β} {l : List α} {bs : List β} :
    l.mapM f = .ok bs ↔ List.Forall₂ (fun a b => f a = .ok b) l bs := by
  induction l generalizing bs with
  | nil => simp [pure, Except.pure, eq_comm]
  | cons a l ih =>
    simp only [List.mapM_cons, bind_eq_ok, ih, pure, Except.pure, Except.ok.injEq]
    constructor
    · rintro ⟨b, hb, rest, hrest, rfl⟩
      exact .cons hb hrest
    · rintro (_ | ⟨hb, hrest⟩)
      exact ⟨_, hb, _, hrest, rfl⟩

theorem exists_mapM_eq_ok {f : α → Except ε β} {l : List α} (h : ∀ a ∈ l, ∃ b, f a = .ok b) :
    ∃ bs, l.mapM f = .ok bs := by
  induction l with
  | nil => exact ⟨[], rfl⟩
  | cons a l ih =>
    obtain ⟨b, hb⟩ := h a List.mem_cons_self
    obtain ⟨bs, hbs⟩ := ih fun x hx => h x (List.mem_cons_of_mem _ hx)
    exact ⟨b :: bs, mapM_eq_ok.2 (.cons hb (mapM_eq_ok.1 hbs))⟩

theorem exists_of_mapM_eq_error {f : α → Except ε β} {l : List α} {e : ε}
    (h : l.mapM f = .error e) : ∃ a ∈ l, f a = .error e := by
  induction l with
  | nil => cases h
  | cons a l ih =>
    rw [List.mapM_cons] at h
    cases ha : f a with
    | error e' => rw [ha] at h; cases h; exact ⟨a, List.mem_cons_self, ha⟩
    | ok b =>
      rw [ha] at h
      cases hl : l.mapM f with
      | error e' =>
        rw [hl] at h
        cases h
        obtain ⟨x, hx, he⟩ := ih hl
        exact ⟨x, List.mem_cons_of_mem _ hx, he⟩
      | ok bs => rw [hl] at h; cases h

/-- The first step that fails decides. -/
theorem mapM_append_of_error {f : α → Except ε β} {l : List α} {e : ε} (h : l.mapM f = .error e)
    (r : List α) : (l ++ r).mapM f = .error e := by
  rw [List.mapM_append, h]
  rfl

theorem mapM_append_of_ok {f : α → Except ε β} {l : List α} {bs : List β} (h : l.mapM f = .ok bs)
    (r : List α) : (l ++ r).mapM f = (r.mapM f).map fun rest => bs ++ rest := by
  rw [List.mapM_append, h]
  cases r.mapM f <;> rfl

/-- What holds of all that goes in is what holds of all that comes out, if it is so for each. -/
theorem forall_mem_iff_of_mapM {f : α → Except ε β} {l : List α} {bs : List β}
    (h : l.mapM f = .ok bs) {p : α → Prop} {q : β → Prop}
    (hpq : ∀ a b, f a = .ok b → (p a ↔ q b)) : (∀ a ∈ l, p a) ↔ ∀ b ∈ bs, q b := by
  have hall := mapM_eq_ok.1 h
  clear h
  induction hall with
  | nil => simp
  | cons hab _ ih =>
    rw [List.forall_mem_cons, List.forall_mem_cons]
    exact and_congr (hpq _ _ hab) ih

theorem map_eq_of_mapM {γ : Type} {f : α → Except ε β} {l : List α} {bs : List β}
    (h : l.mapM f = .ok bs) {g : α → γ} {k : β → γ} (hgk : ∀ a b, f a = .ok b → k b = g a) :
    bs.map k = l.map g := by
  have hall := mapM_eq_ok.1 h
  clear h
  induction hall with
  | nil => rfl
  | cons hab _ ih => rw [List.map_cons, List.map_cons, ih, hgk _ _ hab]

end

namespace Configuration

variable {c : Configuration} {env : Environment}

/-! ## Bridges and device types -/

theorem atPlace_eq_ok {place : String} {α : Type} {r : Except HubError α} :
    atPlace place r = .ok () ↔ ∃ a, r = .ok a := by
  cases r <;> simp [atPlace]

theorem atPlace_unit_eq_ok {place : String} {r : Except HubError Unit} :
    atPlace place r = .ok () ↔ r = .ok () := by
  cases r <;> simp [atPlace]

theorem checkBridge_eq_ok {name : String} {s : BridgeSection} :
    c.checkBridge env name s = .ok () ↔
      ∃ b, s.translate c.defaults name env = .ok b ∧ b.validate = .ok () := by
  simp only [checkBridge, bind_eq_ok, atPlace_unit_eq_ok]

theorem checkType_eq_ok {name : String} {s : Schema} :
    checkType name s = .ok () ↔ s.fields ≠ [] := by
  unfold checkType
  split <;> simp_all

/-! ## Devices -/

theorem checkDevice_eq_ok {s : DeviceSection} :
    c.checkDevice s = .ok () ↔
      c.bridges.contains s.bridge = true ∧ c.registry.contains s.deviceType = true ∧
        ∃ d, s.translate c.defaults = .ok d ∧ ∃ seconds, d.validate = .ok seconds := by
  unfold checkDevice
  split
  · next hbridge => simp [hbridge]
  · next hbridge =>
    split
    · next htype => simp [htype]
    · next htype =>
      simp only [Decidable.not_not] at hbridge htype
      simp [hbridge, htype, bind_eq_ok, atPlace_eq_ok]

/-- By induction on the devices: an id is new when no device before has it. -/
theorem checkDevices_eq_ok {seen : List String} {l : List DeviceSection} :
    c.checkDevices seen l = .ok () ↔
      (∀ s ∈ l, s.id ∉ seen) ∧ (l.map (·.id)).Nodup ∧ ∀ s ∈ l, c.checkDevice s = .ok () := by
  induction l generalizing seen with
  | nil => simp [checkDevices]
  | cons s rest ih =>
    by_cases hseen : s.id ∈ seen
    · simp [checkDevices, hseen, bind, Except.bind]
    · have hstep : c.checkDevices seen (s :: rest) = .ok () ↔
          c.checkDevice s = .ok () ∧ c.checkDevices (s.id :: seen) rest = .ok () := by
        simp only [checkDevices, hseen, if_false, check_bind_eq_ok]
      rw [hstep, ih]
      rw [List.forall_mem_cons, List.forall_mem_cons, List.map_cons, List.nodup_cons]
      simp only [List.mem_map, List.mem_cons]
      constructor
      · rintro ⟨hs, hfresh, hnodup, hall⟩
        refine ⟨⟨hseen, fun t ht hmem => hfresh t ht (.inr hmem)⟩, ⟨?_, hnodup⟩, hs, hall⟩
        rintro ⟨t, ht, hid⟩
        exact hfresh t ht (.inl hid)
      · rintro ⟨⟨-, hfresh⟩, ⟨hnew, hnodup⟩, hs, hall⟩
        refine ⟨hs, fun t ht => ?_, hnodup, hall⟩
        rintro (hid | hmem)
        · exact hnew ⟨t, ht, hid⟩
        · exact hfresh t ht hmem

/-! ## Configurations -/

theorem check_eq_ok :
    c.check env = .ok () ↔
      (∀ e ∈ c.bridges, c.checkBridge env e.1 e.2 = .ok ()) ∧
        (∀ e ∈ c.deviceTypes, e.2.fields ≠ []) ∧
          (c.devices.map (·.id)).Nodup ∧ ∀ s ∈ c.devices, c.checkDevice s = .ok () := by
  have hdevices : c.checkDevices [] c.devices = .ok () ↔
      (c.devices.map (·.id)).Nodup ∧ ∀ s ∈ c.devices, c.checkDevice s = .ok () := by
    simp [checkDevices_eq_ok]
  simp only [check, check_bind_eq_ok, List.forM_eq_forM, forM_eq_ok, checkType_eq_ok, hdevices]

/-! ## A bridge with a token -/

/-- A section with nothing but a token, and the certificate of an authority if there is one. -/
def tokenSection (caCert : Option String) : BridgeSection :=
  { baseUrl := "http://server/", auth := .bearer, tokenUrl := none, clientId := none,
    clientSecret := none, clientSecretEnv := none, scope := none, username := none,
    password := none, passwordEnv := none, token := some "t", tokenEnv := none, caCert := caCert,
    insecure := none, timeout := none }

end Configuration

end DeviceHub
