import Mathlib.Algebra.Order.Ring.Int
import Picket.Lib.AssocList
import Picket.Lib.Threads

/-!
# SSH launches

The launches and the tunnels of an `sshManager`, and the goroutines of the requests that take and
revoke them. Each critical section is one operation, and so is each step between two of them; time
passes whenever it likes.
-/

namespace Picket

open Threads AssocList

/-! Durations and times are in nanoseconds. -/

def sshLaunchTTL : ℕ := 5 * 60 * 10 ^ 9
def sshIdleTTL : ℕ := 15 * 60 * 10 ^ 9
def sshMaxTTL : ℕ := 12 * 60 * 60 * 10 ^ 9

structure SshLaunch where
  systemID : String
  username : String
  expires : ℕ
  used : Bool := false
  deriving DecidableEq

/-- An `sshTunnel`; `sshToken` is what the session of its `userConn` holds. -/
structure SshTunnel where
  sshToken : String
  launch : SshLaunch
  agent : Option ℕ
  last : ℕ
  closes : ℕ := 0
  deriving DecidableEq

structure SshManager where
  launch : List (String × SshLaunch) := []
  tunnels : List (String × ℕ) := []
  agents : List (String × ℕ) := []
  /-- All tunnels that were ever inserted; `tunnels` and the goroutines refer to them. -/
  inserted : List SshTunnel := []
  now : ℕ := 0
  /-- The tokens that were created or asked for. -/
  named : List String := []
  /-- When each launch was to expire, the launches taken and when, the tokens whose
  `revokeSSHLaunch` is past its critical section and those whose has returned: all kept for the
  record only. -/
  issued : List (String × ℕ) := []
  taken : List (String × ℕ) := []
  revoked : List String := []
  returned : List String := []
  deriving DecidableEq

inductive LaunchOp where
  | take (token : String)
  /-- `connectUser` upgrades the connection. -/
  | upgrade (token : String) (launch : SshLaunch)
  /-- Its critical section. -/
  | connectUser (token : String) (launch : SshLaunch) (last : ℕ)
  /-- The `select` of `expire`. -/
  | expire (token : String) (ref : ℕ)
  | remove (token : String)
  /-- The critical section of `revokeSSHLaunch`, its two looks at `done` and its answer. -/
  | revokeSSHLaunch (token : String)
  | selectDone (ref : ℕ)
  | closeDone (ref : ℕ)
  | answer (token : String)
  /-- The two critical sections of `attachAgent`. -/
  | attachAgent (systemID : String) (agent : ℕ)
  | bindTunnel (systemID : String) (agent : ℕ)
  deriving DecidableEq

/-- Whether the upgrade succeeds, which case `select` takes, and where the loop over the tunnels
stops. -/
inductive LaunchChoice where
  | ok
  | fail
  | tick
  | done
  | tunnel (token : String)
  | none
  deriving DecidableEq

def SshTunnel.expired (tunnel : SshTunnel) (now : ℕ) : Prop :=
  now - tunnel.last ≥ sshIdleTTL ∨ now - (tunnel.launch.expires - sshLaunchTTL) ≥ sshMaxTTL

instance (tunnel : SshTunnel) (now : ℕ) : Decidable (tunnel.expired now) :=
  inferInstanceAs (Decidable (_ ∨ _))

namespace SshManager

def modifyTunnel (m : SshManager) (ref : ℕ) (f : SshTunnel → SshTunnel) : SshManager :=
  { m with inserted := m.inserted.modify ref f }

def close (m : SshManager) (ref : ℕ) : SshManager :=
  m.modifyTunnel ref fun tunnel => { tunnel with closes := tunnel.closes + 1 }

def bind (m : SshManager) (ref agent : ℕ) : SshManager :=
  m.modifyTunnel ref fun tunnel => { tunnel with agent := some agent }

/-- `tunnel.last = time.Now()`. -/
def touch (m : SshManager) (ref : ℕ) : SshManager :=
  m.modifyTunnel ref fun tunnel => { tunnel with last := m.now }

/-- The condition of the loop at the end of `attachAgent`. -/
def Waiting (m : SshManager) (systemID : String) (ref : ℕ) : Prop :=
  ∃ tunnel ∈ m.inserted[ref]?, tunnel.launch.systemID = systemID ∧ tunnel.agent = none

instance (m : SshManager) (systemID : String) (ref : ℕ) : Decidable (m.Waiting systemID ref) :=
  inferInstanceAs (Decidable (∃ tunnel ∈ m.inserted[ref]?, _))

end SshManager

def LaunchOp.exec (m : SshManager) (_ : Unit) (choice : LaunchChoice) :
    LaunchOp → Option (Outcome SshManager Unit LaunchOp)
  | .take token =>
      match m.launch.lookup token with
      | none => some { state := m }
      | some launch =>
          if launch.used ∨ m.now > launch.expires then some { state := m }
          else
            some
              { state :=
                  { m with
                    launch := delete token m.launch
                    taken := (token, m.now) :: m.taken }
                ops := [.upgrade token { launch with used := true }] }
  | .upgrade token launch =>
      if choice = .ok then some { state := m, ops := [.connectUser token launch m.now] }
      else some { state := m }
  | .connectUser token launch last =>
      let ref := m.inserted.length
      let tunnel :=
        { sshToken := token, launch, agent := m.agents.lookup launch.systemID, last }
      -- the `ReadLoop` of the user's connection ends with `OnClose`, whatever ends it
      some
        { state :=
            { m with
              tunnels := insert token ref m.tunnels
              inserted := m.inserted ++ [tunnel] }
          spawned := [⟨(), [.expire token ref]⟩, ⟨(), [.remove token]⟩] }
  | .expire token ref =>
      match m.inserted[ref]? with
      | none => none
      | some tunnel =>
          match choice with
          | .tick =>
              if tunnel.expired m.now then some { state := m, ops := [.remove token] }
              else some { state := m, ops := [.expire token ref] }
          | .done => if 0 < tunnel.closes then some { state := m } else none
          | _ => none
  | .remove token =>
      match m.tunnels.lookup token with
      | none => some { state := m }
      | some ref => some { state := { m.close ref with tunnels := delete token m.tunnels } }
  | .revokeSSHLaunch token =>
      let m' :=
        { m with launch := delete token m.launch, revoked := token :: m.revoked }
      match m.tunnels.lookup token with
      | none => some { state := m', ops := [.answer token] }
      | some ref =>
          some
            { state := { m' with tunnels := delete token m.tunnels }
              ops := [.selectDone ref, .answer token] }
  | .selectDone ref =>
      match m.inserted[ref]? with
      | none => none
      | some tunnel =>
          if 0 < tunnel.closes then some { state := m }
          else some { state := m, ops := [.closeDone ref] }
  | .closeDone ref => some { state := m.close ref }
  | .answer token => some { state := { m with returned := token :: m.returned } }
  | .attachAgent systemID agent =>
      some
        { state := { m with agents := insert systemID agent m.agents }
          ops := [.bindTunnel systemID agent] }
  | .bindTunnel systemID agent =>
      match choice with
      | .tunnel token =>
          match m.tunnels.lookup token with
          | none => none
          | some ref =>
              if m.Waiting systemID ref then some { state := m.bind ref agent } else none
      | .none =>
          if ∀ entry ∈ m.tunnels, ¬ m.Waiting systemID entry.2 then some { state := m } else none
      | _ => none

abbrev LaunchWorld := World SshManager Unit LaunchOp

inductive LaunchEvent where
  /-- `create`, with the random token it gets. -/
  | create (token systemID username : String)
  | connectUser (token : String)
  | revokeSSHLaunch (token : String)
  | attachAgent (systemID : String) (agent : ℕ)
  /-- A message passes through the tunnel, one way or the other. -/
  | forward (ref : ℕ)
  | elapse (duration : ℕ)
  | run (i : ℕ) (choice : LaunchChoice)
  deriving DecidableEq

namespace LaunchWorld

def init : LaunchWorld := { state := {} }

def step (w : LaunchWorld) : LaunchEvent → Option LaunchWorld
  | .create token systemID username =>
      -- 32 random bytes are none that anybody has seen or guessed
      if token ∈ w.state.named then none
      else
        let launch := { systemID, username, expires := w.state.now + sshLaunchTTL }
        some
          { w with
            state :=
              { w.state with
                launch := insert token launch w.state.launch
                named := token :: w.state.named
                issued := insert token launch.expires w.state.issued } }
  | .connectUser token =>
      let m := { w.state with named := token :: w.state.named }
      some (World.spawn { w with state := m } ⟨(), [.take token]⟩)
  | .revokeSSHLaunch token =>
      let m := { w.state with named := token :: w.state.named }
      some (World.spawn { w with state := m } ⟨(), [.revokeSSHLaunch token]⟩)
  | .attachAgent systemID agent => some (w.spawn ⟨(), [.attachAgent systemID agent]⟩)
  | .forward ref => some { w with state := w.state.touch ref }
  | .elapse duration => some { w with state := { w.state with now := w.state.now + duration } }
  | .run i choice => w.turn LaunchOp.exec i choice

end LaunchWorld

end Picket
