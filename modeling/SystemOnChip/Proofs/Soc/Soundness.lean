import SystemOnChip.Proofs.Irq
import SystemOnChip.Proofs.Soc.Effects

/-! The invariant of a system, which holds of every system that declarations can
lead to. A master of the registers in particular always finds its bridge. -/
namespace SystemOnChip.Soc
open Relation (ReflTransGen)

structure Sound (soc : Soc) : Prop where
  bus : soc.bus.Sound
  csr : soc.csr.Sound
  irq : soc.irq.locations.Sound
  bridged : soc.csr.masters ≠ [] → soc.Bridged

variable {soc after : Soc}

theorem Bridged.bus {bus : Bus} (bridged : soc.Bridged) (moved : soc.bus.Step bus) :
    Bridged { soc with bus } := by
  obtain ⟨slave, origin, found⟩ := bridged
  exact ⟨moved.slave?_isSome slave, origin, moved.get?_regions found⟩

theorem Sound.step (sound : soc.Sound) (moved : Step soc after) : after.Sound := by
  cases moved with
  | bus moved =>
    exact { sound with
      bus := sound.bus.step moved
      bridged := fun masters => (sound.bridged masters).bus moved }
  | csrLocation moved => exact { sound with csr := sound.csr.location moved }
  | csrMaster bridged fresh =>
    exact { sound with
      csr := { sound.csr with }
      bridged := fun _ => bridged }
  | irqLocation moved => exact { sound with irq := sound.irq.step moved }
  | constant => exact { sound with }
  | peripheral => exact { sound with }
  | cpu => exact { sound with }
  | controller => exact { sound with }
  | resetSource => exact { sound with }

theorem Sound.steps (sound : soc.Sound) (path : ReflTransGen Step soc after) : after.Sound :=
  Call.keeps_of_path (fun _ _ moved sound => Sound.step sound moved) path sound

theorem ofConfig_sound {config : Config} (accepted : (ofConfig config).result = .ok soc) :
    soc.Sound := by
  simp only [ofConfig, Verdict.bind_ok_iff, Verdict.result_info, Call.completed_ok_iff] at accepted
  obtain ⟨-, -, bus, busAccepted, csr, csrAccepted, irq, irqAccepted, -, -, -, created⟩ := accepted
  obtain ⟨sound, none⟩ := Csr.ofConfig_sound csrAccepted
  rw [← created]
  refine Sound.steps ?_ configure_runs.path
  exact ⟨Bus.ofConfig_sound busAccepted, sound, Irq.ofConfig_sound irqAccepted,
    fun masters => absurd none masters⟩

/-- The system that a declaration leaves, whether it succeeds or fails. -/
def leave (soc : Soc) (declaration : Declaration) : Soc := (declaration.perform soc).state

/-- The systems that any declarations lead to from a configuration, each made on
the system that the one before left. -/
inductive Reachable : Soc → Prop where
  | created {config : Config} {soc : Soc} (accepted : (ofConfig config).result = .ok soc) :
      Reachable soc
  | declared {soc : Soc} (reached : Reachable soc) (declaration : Declaration) :
      Reachable (soc.leave declaration)

/-- The system that a list of declarations leaves. -/
def run (config : Config) (declarations : List Declaration) : Verdict Soc := do
  let soc ← ofConfig config
  pure (declarations.foldl leave soc)

theorem Reachable.foldl (reached : soc.Reachable) (declarations : List Declaration) :
    (declarations.foldl leave soc).Reachable := by
  induction declarations generalizing soc with
  | nil => exact reached
  | cons declaration rest ih => exact ih (reached.declared declaration)

theorem reachable_of_run {config : Config} {declarations : List Declaration}
    (ran : (run config declarations).result = .ok soc) : soc.Reachable := by
  simp only [run, Verdict.bind_ok_iff, Verdict.result_pure, Except.ok.injEq] at ran
  obtain ⟨initial, accepted, rfl⟩ := ran
  exact (Reachable.created accepted).foldl declarations

/-- A configuration with a window of uncached addresses for the registers. -/
def windowed : Config := {
  bus := { reservedRegions := .ofList [("io0", .full (Region.window 0xf0000000 0x10000000))] } }

theorem Reachable.sound (reached : soc.Reachable) : soc.Sound := by
  induction reached with
  | created accepted => exact ofConfig_sound accepted
  | declared _ declaration ih => exact ih.steps (perform_runs declaration).path

end SystemOnChip.Soc
