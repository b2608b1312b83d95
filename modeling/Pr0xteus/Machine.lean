import Pr0xteus.Goroutine

/-!
# The controller as a machine

A state is what the goroutines share and where each of them is. The actions are the passing of time,
the start of a goroutine (a request, a connection, a tick of the reaper, an admin call) and one access
of one goroutine. A run is any list of these, so what is proved of every run holds of every
interleaving.
-/

namespace Pr0xteus

open Encoding GoTime

def Pc.call : Pc → Call
  | .done | .failed _ => .halt
  | .acquire a stage =>
      match stage with
      | .tryHot | .recheck _ => .acquire a.state a.excludeProxy
      | .mutexFor => .poolMutexFor a.state
      | .lock mu => .lock mu
      | .pickClock _ | .readyClock _ _ _ _ _ | .useClock _ _ | .failClock _ _ _ => .clock
      | .excludeConfs _ _ => .snapshot a.state
      | .pickConf _ now exclude => .pickConf a.state now exclude
      | .create _ conf => .containerCreate (a.request conf)
      | .waitReady _ _ containerID => .waitReady containerID
      | .abandon _ _ containerID _ => .kill containerID
      | .publish _ t now => .setTunnel a.state (some (t.firstUse a.state now))
      | .recordFailure _ conf _ now => .markFailed a.state conf now
      | .unlockOk mu _ | .unlockFail mu _ => .unlock mu
  | .assign acq stage =>
      match stage with
      | .leaseParts _ => .leaseParts
      | .issueClock _ _ _ => .clock
      | .issue url leaseID secret now => .issueLease now leaseID secret acq url
      | .setLastURL lease =>
          .setLastURL acq.pool acq.tunnel.containerID lease.proxies.socks5 lease.expiresAt
      | .release => .release acq.pool
  | .gateway username password stage =>
      match stage with
      | .lookupClock _ => .clock
      | .lookup _ now => .lookupLease now username password
      | .reserve _ record => .acquireContainer record.pool record.containerID
      | .dial acq => .dial acq.tunnel.gatewayAddr
      | .connected acq | .hangUp acq => .release acq.pool
  | .reaper stage =>
      match stage with
      | .idleClock _ | .healthAge _ _ _ _ | .failClock _ _ _ _ => .clock
      | .idleList _ _ | .healthList _ => .listChildren
      | .idlePool _ _ pool _ | .healthPool _ pool _ => .snapshot pool
      | .idleStatus _ _ _ _ _ url => .status url
      | .healthProbe _ _ _ _ url => .healthz url
      | .healthConfirm _ _ pool t => .confirmHealthy pool t.containerID
      | .recordFailure _ _ pool t now => .markFailed pool t.confName now
      | .killMark _ pool t => .markReaping pool t.containerID
      | .killInvoke _ _ t => .kill t.containerID
      | .killClear _ pool _ => .setTunnel pool none
  | .orphan stage =>
      match stage with
      | .collect _ pool _ => .snapshot pool
      | .list _ => .containerList
      | .clock _ _ => .clock
      | .kill containerID _ => .kill containerID
  | .destroy containerID stage =>
      match stage with
      | .list _ => .listChildren
      | .kill _ => .kill containerID
      | .find pool _ => .snapshot pool
      | .clear pool => .setTunnel pool none
  | .close stage =>
      match stage with
      | .pool pool _ => .snapshot pool
      | .kill _ containerID _ => .kill containerID
      | .clear pool _ _ => .setTunnel pool none
  | .markFailed pool confName stage =>
      match stage with
      | .mark => .markUnhealthy pool confName
      | .clock => .clock
      | .record now => .markFailed pool confName now

/-- Where a goroutine goes with what its access returned. -/
def resume (m : Setup) : (pc : Pc) → pc.call.Ret → Pc
  | .done, _ => .done
  | .failed err, _ => .failed err
  | .acquire a .tryHot, .ok t => assign ⟨t, a.state⟩
  | .acquire a .tryHot, .error err =>
      if err.err = .unknownPool then .failed a.unknown else .acquire a .mutexFor
  | .acquire a .mutexFor, mu => .acquire a (.lock mu)
  | .acquire a (.lock mu), _ => .acquire a (.recheck mu)
  | .acquire a (.recheck mu), .ok t => .acquire a (.unlockOk mu ⟨t, a.state⟩)
  | .acquire a (.recheck mu), .error _ => .acquire a (.pickClock mu)
  | .acquire a (.pickClock mu), now =>
      -- the slot is only looked at when there is a proxy to exclude
      if a.excludeProxy.isSome then .acquire a (.excludeConfs mu now)
      else .acquire a (.pickConf mu now [])
  | .acquire a (.excludeConfs mu now), snapshot =>
      .acquire a (.pickConf mu now (excludeConfsFor a.excludeProxy snapshot))
  | .acquire a (.pickConf mu _ _), .ok conf => .acquire a (.create mu conf)
  | .acquire a (.pickConf mu _ _), .error err => .acquire a (.unlockFail mu err)
  | .acquire a (.create mu conf), .ok containerID => .acquire a (.waitReady mu conf containerID)
  | .acquire a (.create mu conf), .error reason => .acquire a (.failClock mu conf reason)
  | .acquire a (.waitReady mu conf containerID), .ok (addr, gatewayAddr) =>
      .acquire a (.readyClock mu conf containerID addr gatewayAddr)
  | .acquire a (.waitReady mu conf containerID), .error reason =>
      .acquire a (.abandon mu conf containerID reason)
  | .acquire a (.readyClock mu conf containerID addr gatewayAddr), now =>
      .acquire a (.useClock mu (readyTunnel (a.request conf) containerID addr gatewayAddr now))
  | .acquire a (.abandon mu conf _ reason), _ => .acquire a (.failClock mu conf reason)
  | .acquire a (.useClock mu t), now => .acquire a (.publish mu t now)
  | .acquire a (.publish mu t now), _ =>
      .acquire a (.unlockOk mu ⟨t.firstUse a.state now, a.state⟩)
  | .acquire a (.failClock mu conf reason), now => .acquire a (.recordFailure mu conf reason now)
  | .acquire a (.recordFailure mu conf reason _), _ =>
      .acquire a (.unlockFail mu (a.spawnFailure conf reason))
  | .acquire _ (.unlockOk _ acq), _ => assign acq
  | .acquire a (.unlockFail _ err), _ => a.fail m err
  | .assign acq (.leaseParts _), none => .assign acq .release
  | .assign acq (.leaseParts url), some (leaseID, secret) =>
      .assign acq (.issueClock url leaseID secret)
  | .assign acq (.issueClock url leaseID secret), now =>
      .assign acq (.issue url leaseID secret now)
  | .assign acq (.issue _ _ _ _), lease => .assign acq (.setLastURL lease)
  | .assign acq (.setLastURL _), _ => .assign acq .release
  | .assign _ .release, _ => .done
  | .gateway u p (.lookupClock use), now => .gateway u p (.lookup use now)
  | .gateway _ _ (.lookup _ _), none => .done
  | .gateway u p (.lookup use now), some record =>
      match use with
      | .validate => .done
      | .connect => .gateway u p (.reserve now record)
      | .exclude poolName fallbackOK =>
          .acquire ⟨poolName, some record.internalURL, fallbackOK, false, poolName⟩ .tryHot
  | .gateway u p (.reserve _ record), .ok t => .gateway u p (.dial ⟨t, record.pool⟩)
  | .gateway _ _ (.reserve _ _), .error _ => .done
  | .gateway u p (.dial acq), true => .gateway u p (.connected acq)
  | .gateway u p (.dial acq), false => .gateway u p (.hangUp acq)
  | .gateway _ _ (.connected _), _ => .done
  | .gateway _ _ (.hangUp _), _ => .done
  | .reaper (.idleClock names), now => .reaper (.idleList now names)
  | .reaper (.idleList now names), listed => Pass.next (.idle now (childControlURLs listed) names)
  | .reaper (.idlePool now urls _ names), none => Pass.next (.idle now urls names)
  | .reaper (.idlePool now urls pool names), some t =>
      if sub now t.lastUsedAt < m.cfg.idleTimeout then Pass.next (.idle now urls names)
      else if 0 < t.inFlight then Pass.next (.idle now urls names)
      else
        match urls t.containerID with
        | none => .reaper (.killMark (.idle now urls names) pool t)
        | some url => .reaper (.idleStatus now urls names pool t url)
  | .reaper (.idleStatus now urls names pool t _), active =>
      -- a cell whose status cannot be read has no live connections
      if 0 < active.getD 0 then Pass.next (.idle now urls names)
      else .reaper (.killMark (.idle now urls names) pool t)
  | .reaper (.healthList names), listed => Pass.next (.health (childControlURLs listed) names)
  | .reaper (.healthPool urls _ names), none => Pass.next (.health urls names)
  | .reaper (.healthPool urls pool names), some t =>
      if t.state ≠ .hot then Pass.next (.health urls names)
      else
        match urls t.containerID with
        | some url => .reaper (.healthProbe urls names pool t url)
        | none => .reaper (.healthAge urls names pool t)
  | .reaper (.healthProbe urls names pool t _), true => .reaper (.healthConfirm urls names pool t)
  | .reaper (.healthProbe urls names pool t _), false => .reaper (.failClock urls names pool t)
  | .reaper (.healthAge urls names pool t), now =>
      if sub now t.healthyAt ≤ m.cfg.healthHandshakeMaxAge then
        .reaper (.healthConfirm urls names pool t)
      else .reaper (.failClock urls names pool t)
  | .reaper (.healthConfirm urls names _ _), _ => Pass.next (.health urls names)
  | .reaper (.failClock urls names pool t), now => .reaper (.recordFailure urls names pool t now)
  | .reaper (.recordFailure urls names pool t _), _ =>
      .reaper (.killMark (.health urls names) pool t)
  | .reaper (.killMark pass pool t), _ => .reaper (.killInvoke pass pool t)
  | .reaper (.killInvoke pass pool t), _ => .reaper (.killClear pass pool t)
  | .reaper (.killClear pass _ _), _ => pass.next
  | .orphan (.collect keep _ names), snapshot =>
      match snapshot with
      | none => collectNext keep names
      | some t =>
          if t.containerID = "" then collectNext keep names
          else collectNext (t.containerID :: keep) names
  | .orphan (.list _), none => .done
  | .orphan (.list keep), some listed => .orphan (.clock keep listed)
  | .orphan (.clock keep listed), now =>
      orphanNext ((listed.filter (reapsOrphan m.cfg keep true now)).map Summary.id)
  | .orphan (.kill _ rest), _ => orphanNext rest
  | .destroy _ (.list _), none => .done
  | .destroy containerID (.list names), some listed =>
      if containsCell listed containerID then .destroy containerID (.kill names) else .done
  | .destroy containerID (.kill names), _ => destroyNext containerID names
  | .destroy containerID (.find pool names), snapshot =>
      match snapshot with
      | none => destroyNext containerID names
      | some t =>
          if t.containerID = containerID then .destroy containerID (.clear pool)
          else destroyNext containerID names
  | .destroy _ (.clear _), _ => .done
  | .close (.pool _ names), none => closeNext names
  | .close (.pool pool names), some t =>
      if t.containerID = "" then closeNext names else .close (.kill pool t.containerID names)
  | .close (.kill pool containerID names), _ => .close (.clear pool containerID names)
  | .close (.clear _ _ names), _ => closeNext names
  | .markFailed pool confName .mark, _ => .markFailed pool confName .clock
  | .markFailed pool confName .clock, now => .markFailed pool confName (.record now)
  | .markFailed _ _ (.record _), _ => .done

inductive Entry where
  | proxy (poolName : String) (excludeProxy : Option URL) (fallbackOK : Bool)
  | lease (username password : String) (use : LeaseUse)
  | reapIdle (names : List String)
  | checkHealth (names : List String)
  | reapOrphans (names : List String)
  | destroyCell (containerID : String) (names : List String)
  | close (names : List String)
  | markFailed (pool confName : String)

namespace Entry

def start : Entry → Pc
  | .proxy poolName excludeProxy fallbackOK =>
      .acquire ⟨poolName, excludeProxy, fallbackOK, false, poolName⟩ .tryHot
  | .lease username password use => .gateway username password (.lookupClock use)
  | .reapIdle names => .reaper (.idleClock names)
  | .checkHealth names => .reaper (.healthList names)
  | .reapOrphans names => collectNext [] names
  | .destroyCell containerID names => .destroy containerID (.list names)
  | .close names => closeNext names
  | .markFailed pool confName => .markFailed pool confName .mark

/-- A range over the pools visits each of them once, in some order. -/
def visitsPools (m : Setup) : Entry → Bool
  | .reapIdle names | .checkHealth names | .reapOrphans names | .destroyCell _ names
  | .close names => names.isPerm m.poolNames
  | .proxy _ _ _ | .lease _ _ _ | .markFailed _ _ => true

end Entry

inductive Action where
  | tick (d : Nat)
  | start (entry : Entry)
  | step (i : Nat) (answer : Answer)

abbrev State := Threads.System Shared Pc

def step (m : Setup) (s : State) : Action → Option State
  | .tick d => some ⟨{ s.shared with now := s.shared.now + d }, s.threads⟩
  | .start entry =>
      if entry.visitsPools m then some ⟨s.shared, s.threads ++ [entry.start]⟩ else none
  | .step i answer => Threads.turn Pc.call (exec m) (resume m) s i answer

def init (m : Setup) : State := ⟨Shared.initial m, []⟩

abbrev run (m : Setup) (actions : List Action) : List (Transition.Edge State Action) :=
  Transition.edges (step m) (init m) actions

theorem exists_path_run (m : Setup) (actions : List Action) :
    ∃ s, Transition.Path (step m) (init m) (run m actions) s :=
  Transition.exists_path_edges (init m) actions

end Pr0xteus
