import Picket.CurrentRows

/-!
# Rows of different services and containers

A service is known by a hash of 32 bits, a container by its own id, in whatever system it is. So the
tables are exact as long as no two services that were written have one hash, and no container was
written for two systems.
-/

namespace Picket

open Upsert

/-! ### The digits of a hash tell it -/

theorem toDigits_injective {b : ℕ} (hb : 1 < b) (hdigit : ∀ m < b, ∀ n < b,
    m.digitChar = n.digitChar → m = n) {m n : ℕ} (heq : Nat.toDigits b m = Nat.toDigits b n) :
    m = n := by
  induction m using Nat.strongRecOn generalizing n with
  | ind m ih =>
      have hlength := congrArg List.length heq
      rcases Nat.lt_or_ge m b with hm | hm <;> rcases Nat.lt_or_ge n b with hn | hn
      · rw [Nat.toDigits_of_lt_base hm, Nat.toDigits_of_lt_base hn] at heq
        exact hdigit m hm n hn (List.singleton_inj.mp heq)
      · rw [Nat.toDigits_of_lt_base hm, Nat.toDigits_of_base_le hb hn, List.length_append]
          at hlength
        exact absurd hlength (by simp)
      · rw [Nat.toDigits_of_lt_base hn, Nat.toDigits_of_base_le hb hm, List.length_append]
          at hlength
        exact absurd hlength (by simp)
      · rw [Nat.toDigits_of_base_le hb hm, Nat.toDigits_of_base_le hb hn] at heq
        obtain ⟨hfront, hlast⟩ := List.append_inj' heq rfl
        have hdiv := ih (m / b) (Nat.div_lt_self (by omega) hb) hfront
        have hmod := hdigit (m % b) (Nat.mod_lt _ (by omega)) (n % b) (Nat.mod_lt _ (by omega))
          (List.singleton_inj.mp hlast)
        rw [← Nat.div_add_mod m b, ← Nat.div_add_mod n b, hdiv, hmod]

theorem makeStableHashId_inj {strings strings' : List String} :
    makeStableHashId strings = makeStableHashId strings' ↔ hashSum strings = hashSum strings' := by
  refine ⟨fun heq => ?_, fun heq => by rw [makeStableHashId, makeStableHashId, heq]⟩
  have hdigits := String.ofList_injective heq
  exact UInt32.toNat_inj.mp (toDigits_injective (by decide) (by decide) hdigits)

/-! ### The rows that the calls write -/

def CreateRecords.services : CreateRecords → List SystemdServiceRow
  | .createSystemdStatsRecords data systemId now => data.map (systemdServiceRow systemId now)
  | .createContainerRecords _ _ _ => []

def CreateRecords.containers : CreateRecords → List ContainerRow
  | .createSystemdStatsRecords _ _ _ => []
  | .createContainerRecords data systemId now => data.map (containerRow systemId now)

def servicesWritten (calls : List CreateRecords) : List SystemdServiceRow :=
  calls.flatMap (·.services)

def containersWritten (calls : List CreateRecords) : List ContainerRow :=
  calls.flatMap (·.containers)

theorem systemdServices_foldl (calls : List CreateRecords) (t : CurrentRows) :
    (calls.foldl CurrentRows.create t).systemdServices =
      (servicesWritten calls).foldl
        (upsert SystemdServiceRow.entity fun entity => makeStableHashId [entity.1, entity.2])
        t.systemdServices := by
  induction calls generalizing t with
  | nil => rfl
  | cons call calls ih =>
      have hwritten : servicesWritten (call :: calls) = call.services ++ servicesWritten calls :=
        rfl
      rw [List.foldl_cons, ih, hwritten, List.foldl_append]
      congr 1
      cases call with
      | createSystemdStatsRecords data systemId now =>
          rw [CurrentRows.create, CurrentRows.createSystemdStatsRecords]
          split
          case isTrue hdata =>
            rw [List.length_eq_zero_iff.mp hdata]
            rfl
          · rfl
      | createContainerRecords data systemId now =>
          rw [CurrentRows.create, CurrentRows.createContainerRecords]
          split <;> rfl

theorem containers_foldl (calls : List CreateRecords) (t : CurrentRows) :
    (calls.foldl CurrentRows.create t).containers =
      (containersWritten calls).foldl (upsert ContainerRow.entity Prod.snd) t.containers := by
  induction calls generalizing t with
  | nil => rfl
  | cons call calls ih =>
      have hwritten :
          containersWritten (call :: calls) = call.containers ++ containersWritten calls := rfl
      rw [List.foldl_cons, ih, hwritten, List.foldl_append]
      congr 1
      cases call with
      | createSystemdStatsRecords data systemId now =>
          rw [CurrentRows.create, CurrentRows.createSystemdStatsRecords]
          split <;> rfl
      | createContainerRecords data systemId now =>
          rw [CurrentRows.create, CurrentRows.createContainerRecords]
          split
          case isTrue hdata =>
            rw [List.length_eq_zero_iff.mp hdata]
            rfl
          · rfl

/-- After the calls, each service and each container that they wrote has its latest row. -/
def RowsExact (calls : List CreateRecords) : Prop :=
  Exact SystemdServiceRow.entity (calls.foldl CurrentRows.create {}).systemdServices
      (servicesWritten calls) ∧
    Exact ContainerRow.entity (calls.foldl CurrentRows.create {}).containers
      (containersWritten calls)

theorem rowsExact_iff (calls : List CreateRecords) :
    RowsExact calls ↔
      (∀ row ∈ servicesWritten calls, ∀ row' ∈ servicesWritten calls,
        hashSum [row.system, row.name] = hashSum [row'.system, row'.name] →
          row.system = row'.system ∧ row.name = row'.name) ∧
      (∀ row ∈ containersWritten calls, ∀ row' ∈ containersWritten calls,
        row.id = row'.id → row.system = row'.system) := by
  rw [RowsExact, systemdServices_foldl, containers_foldl]
  refine and_congr ((exact_iff _).trans ?_) ((exact_iff _).trans ?_)
  · refine forall₂_congr fun row _ => forall₂_congr fun row' _ => ?_
    rw [makeStableHashId_inj, SystemdServiceRow.entity, SystemdServiceRow.entity, Prod.mk.injEq]
  · refine forall₂_congr fun row _ => forall₂_congr fun row' _ => forall_congr' fun hid => ?_
    rw [ContainerRow.entity, ContainerRow.entity, Prod.mk.injEq]
    exact and_iff_left hid

/-- The names of services, and the ids of containers, are distinct. -/
def CreateRecords.Distinct : CreateRecords → Prop
  | .createSystemdStatsRecords data _ _ => (data.map (·.name)).Nodup
  | .createContainerRecords data _ _ => (data.map (·.id)).Nodup

/-- Two services of one system whose ids are one. -/
def sameHash : CreateRecords :=
  .createSystemdStatsRecords [{ name := "php6669-fpm.service" }, { name := "app14586.service" }]
    "k3v9x0q2m7t4a1z" 0

theorem not_rowsExact : ¬ ∀ calls : List CreateRecords, (∀ call ∈ calls, call.Distinct) →
    RowsExact calls := by
  intro hall
  have hexact := hall [sameHash] (List.forall_mem_singleton.mpr (show List.Nodup _ by decide))
  have hnames := ((rowsExact_iff _).mp hexact).1
    (systemdServiceRow "k3v9x0q2m7t4a1z" 0 { name := "php6669-fpm.service" })
    List.mem_cons_self
    (systemdServiceRow "k3v9x0q2m7t4a1z" 0 { name := "app14586.service" })
    (List.mem_cons_of_mem _ List.mem_cons_self) (by decide +kernel)
  exact absurd hnames.2 (by decide)

end Picket
