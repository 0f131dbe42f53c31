import SwitchLab.Cleanup
import SwitchLab.Container
import SwitchLab.Device.Spec
import SwitchLab.Device.Supervisor
import SwitchLab.Net.Listing
import SwitchLab.Net.Server
import SwitchLab.Store.Asic
/-!
A virtual switch: a container that holds a network namespace, the container of the switch in the
same namespace, and a server behind each port. It is made, passes the stages of readiness one after
the other, may be restarted, and is destroyed. A stage that fails ends the switch. A switch that was
attached to is never removed.
-/
namespace SwitchLab

inductive DeviceState where
  | absent
  | creating
  | checkingReadiness
  | ready
  | destroyed
  deriving DecidableEq, Repr

namespace DeviceState

def all : List DeviceState := [absent, creating, checkingReadiness, ready, destroyed]

def text : DeviceState → String
  | absent => "absent"
  | creating => "creating"
  | checkingReadiness => "checking readiness"
  | ready => "ready"
  | destroyed => "destroyed"

instance : Shown DeviceState :=
  ⟨fun
    | absent => "Absent"
    | creating => "Creating"
    | checkingReadiness => "CheckingReadiness"
    | ready => "Ready"
    | destroyed => "Destroyed"⟩

end DeviceState

/-- Handles on the databases of a switch that is ready. -/
structure Stores where
  app : Handle
  asic : AsicDb
  counters : Handle
  config : Handle
  flex : Handle
  state : Handle
  deriving DecidableEq, Repr

structure Device where
  spec : DeviceSpec
  state : DeviceState
  /-- The process that holds the network namespace. -/
  pid : Option Nat
  /-- The container made to hold the namespace. -/
  holder : Option String
  servers : List VirtualServer
  stores : Option Stores
  deriving DecidableEq, Repr

namespace Device

def absent (spec : DeviceSpec) : Device := ⟨spec, .absent, none, none, [], none⟩

def name (d : Device) : String := d.spec.name

def isPersistent (d : Device) : Bool := d.spec.attach

def describe (d : Device) : String :=
  s!"DeviceInstance \x7b name: {shown d.name}, state: {shown d.state}, " ++
    s!"persistent: {shown d.isPersistent}, pid: {shown d.pid}, " ++
    s!"servers: {d.servers.length} \x7d"

def setState (state : DeviceState) : On Device Unit := modify fun d => { d with state }

/-- The fault of an operation that the state of the switch does not allow. -/
def refuse (d : Device) (operation : String) : Fault := .invalidState d.state.text operation

def storesFor (d : Device) (operation : String) : Attempt Stores :=
  match d.stores with
  | some stores => return stores
  | none => throw (d.refuse operation)

def appDb (d : Device) : Attempt Handle := do return (← d.storesFor "app_db").app
def asicDb (d : Device) : Attempt AsicDb := do return (← d.storesFor "asic_db").asic
def countersDb (d : Device) : Attempt Handle := do return (← d.storesFor "counters_db").counters
def configDb (d : Device) : Attempt Handle := do return (← d.storesFor "config_db").config
def flexDb (d : Device) : Attempt Handle := do return (← d.storesFor "flex_db").flex
def stateDb (d : Device) : Attempt Handle := do return (← d.storesFor "state_db").state

/-- Runs a line of shell in the switch. -/
def runShell (d : Device) (script : String) : Attempt Output := Container.shell d.name script

def logs (d : Device) : Attempt String := Container.logs d.name

/-- Saves what the switch printed, and its log files, below `dir`. -/
def saveLogs (d : Device) (dir : String) : Attempt String := do
  let target := Text.joinPath dir d.name
  Host.makeDirectory target
  let text ← d.logs
  Host.writeFile (Text.joinPath target "docker.log") text
  let _ ← (Container.copyOut d.name "/var/log/." (Text.joinPath target "log")).result
  return target

def setPortAdmin (h : Handle) (port : String) (status : AdminStatus) : Attempt Unit :=
  h.putEntry "PORT" port (.ofPairs [("admin_status", status.text)])

/-- Sets a port up or down by way of the configuration. -/
def setInterfaceAdmin (d : Device) (port : String) (isUp : Bool) : Attempt Unit := do
  setPortAdmin (← d.configDb) port (.ofBool isUp)

/-- Gives a port a router interface with an address. Traffic to the address then depends on the
port being up. -/
def addIpAddress (d : Device) (port cidr : String) : Attempt Unit := do
  let db ← d.configDb
  let nothing := FieldValues.ofPairs [("NULL", "NULL")]
  db.putEntry "INTERFACE" port nothing
  db.putEntry "INTERFACE" s!"{port}|{cidr}" nothing

/-- Deletes the links that a switch does not have from the start, and returns their names. -/
def networkCleanup (d : Device) : Attempt (List String) := do
  match d.pid with
  | none => throw (d.refuse "network_cleanup")
  | some pid =>
    let scope := NetScope.ofPid pid
    let output ← scope.ip ["-o", "link", "show"]
    let leaked := AllowList.default.leaked (linkNames output.stdout)
    for link in leaked do
      scope.deleteLink link
    return leaked

/-! Teardown. -/

/-- Removes the containers and the shared directory. -/
def removeContainers (d : Device) : Lab (List String) := do
  let device ← Cleanup.step s!"remove {d.name}" (Container.remove d.name)
  let holder ←
    match d.holder with
    | some holder => Cleanup.step s!"remove {holder}" (Container.remove holder)
    | none => pure []
  let mount := d.spec.mountDir
  let directory ← Cleanup.step s!"remove {mount}" do
    let _ ← Host.check ⟨"rm", ["-rf", mount]⟩
  return device ++ holder ++ directory

def destroyServers : List VirtualServer → Lab (List VirtualServer × List String)
  | [] => return ([], [])
  | s :: rest => do
    let (result, s') ← VirtualServer.destroy.perform s
    let failures ← Cleanup.step s!"destroy {s.ns.name}" (ExceptT.mk (pure result))
    let (rest, more) ← destroyServers rest
    return (s' :: rest, failures ++ more)

/-- Tears the switch down, once: the containers and the directory unless it was attached to, then
the servers that were made here. -/
def destroy : On Device Unit := do
  let d ← get
  if d.state = .destroyed then return ()
  modify fun d => { d with state := .destroyed, stores := none }
  let containers ← if d.spec.attach then pure [] else d.removeContainers
  let (servers, failures) ← destroyServers d.servers
  modify fun d => { d with servers }
  ExceptT.mk (pure (Cleanup.verdict (containers ++ failures)))

/-- Forgets the switch and leaves everything running. -/
def detach (d : Device) : Device :=
  if d.state = .destroyed then d else { d with state := .destroyed, stores := none }

/-- The end of a switch that nobody holds any more. -/
def drop (d : Device) : Lab Unit := do
  if d.state ≠ .absent ∧ d.state ≠ .destroyed then
    let _ ← destroy.perform d

/-- Saves the logs where the spec says so; without a place they are still asked for. -/
def captureLogs (d : Device) : Lab Unit := do
  match d.spec.logPath with
  | some dir => let _ ← (d.saveLogs dir).outcome
  | none => let _ ← d.logs.outcome

/-- Work whose failure ends the switch. The fault of the work is the one that is reported. -/
def orDestroy {α : Type} (work : On Device α) : On Device α := do
  match ← work.result with
  | .ok a => return a
  | .error fault =>
    (← get).captureLogs
    let _ ← destroy.result
    throw fault

/-! Making a switch. -/

/-- The front-panel interfaces are `eth1`, `eth2` and so on. -/
def isFrontPanel (link : String) : Bool :=
  (Text.afterStart? "eth" link).any fun number =>
    number.toList.all Char.isDigit && (Text.unsigned? 32 number).any (1 ≤ ·)

def frontPanelCount (links : List String) : Nat := (links.filter isFrontPanel).length

/-- Servers from `index` on, as many as `count`. -/
def createServers (pid : Nat) : (index count : Nat) → On Device Unit
  | _, 0 => return ()
  | index, count + 1 => do
    let spec := (← get).spec
    let server ← VirtualServer.create spec.netnsDir spec.name pid index
    modify fun d => { d with servers := d.servers ++ [server] }
    createServers pid (index + 1) count

/-- Attaches to a running switch that has as many front-panel interfaces as expected. -/
def attach : On Device Unit := do
  let spec := (← get).spec
  if !(← Container.isRunning spec.name) then
    throw (.provision spec.name "no running container to attach to")
  let pid ← Container.pid spec.name
  modify fun d => { d with pid := some pid }
  let output ← (NetScope.ofPid pid).ip ["-o", "link", "show"]
  let ports := frontPanelCount (linkNames output.stdout)
  if ports = 0 ∨ spec.numPorts < ports then
    throw (.invalidValue
      s!"{spec.name}: {ports} front-panel interfaces, expected 1..={spec.numPorts}")
  if spec.withServers then createServers pid 0 ports

def holderSpec (spec : DeviceSpec) : ContainerSpec :=
  { ContainerSpec.plain spec.holderName spec.netnsImage with
    privileged := true
    interactive := true
    command := ["bash"] }

def switchSpec (spec : DeviceSpec) : ContainerSpec :=
  { ContainerSpec.plain spec.name spec.image with
    network := some s!"container:{spec.holderName}"
    privileged := true
    cpus := some spec.maxCpu
    mounts := [(spec.mountDir, "/var/run/redis")]
    environment := spec.environment }

/-- Makes the containers and the servers. The holder is noted before it is made, so that a part of
it is removed too. -/
def provision : On Device Unit := do
  let spec := (← get).spec
  let _ ← Host.check ⟨"mkdir", ["-p", spec.mountDir]⟩
  modify fun d => { d with holder := some spec.holderName }
  let _ ← Container.createAndStart (holderSpec spec)
  let pid ← Container.pid spec.holderName
  modify fun d => { d with pid := some pid }
  if spec.withServers then createServers pid 0 spec.numPorts
  let _ ← Container.create (switchSpec spec)
  if let some config := spec.defaultConfig then
    Container.copyIn config spec.name "/etc/sonic/config_db.json"
  Container.start spec.name

def setUp : On Device Unit := do
  setState .creating
  orDestroy (if (← get).spec.attach then attach else provision)

/-- Makes a switch or attaches to one. It has to become ready before it can be used. -/
def create (spec : DeviceSpec) : Attempt Device := ExceptT.mk do
  let (result, d) ← setUp.perform (absent spec)
  return result.map fun _ => d

/-! Readiness. -/

/-- What a look at the supervisor shows: the programs that are still to come. -/
def pendingPrograms (name : String) : Lab (List String) := do
  match ← (Container.shell name "supervisorctl status").outcome with
  | .ok output => return Supervisor.pending (Supervisor.statuses output.stdout)
  | .error fault => return [fault.message]

/-- The first stage: all programs are in the state they should be in. -/
def awaitSupervisor (spec : DeviceSpec) : Attempt Unit := ExceptT.mk do
  let cfg := Polling.every spec.pollInterval spec.timeouts.supervisor true
  let result ← poll s!"{spec.name} supervisor daemons" cfg do
    let pending ← pendingPrograms spec.name
    return (pending.isEmpty, pending)
  return result.map fun _ => ()

def openStore (spec : DeviceSpec) (store : StoreName) : Attempt Handle := do
  let db : Database := ⟨spec.socketPath, store⟩
  db.connect
  Handle.new db

/-- The second stage: all databases can be reached, and the one of the forwarding hardware has its
default objects. -/
def connectStores (spec : DeviceSpec) : Attempt Stores := do
  let asic ← AsicDb.new (← openStore spec .asic) spec.timeouts.asicInit
  let app ← openStore spec .appl
  let counters ← openStore spec .counters
  let config ← openStore spec .config
  let flex ← openStore spec .flex
  let state ← openStore spec .state
  return ⟨app, asic, counters, config, flex, state⟩

/-- How far the ports are: the objects of the hardware, and the two marks of the port daemon. -/
structure PortProgress where
  hardware : Nat
  initDone : Bool
  configDone : Bool
  deriving DecidableEq, Repr

instance : Shown PortProgress :=
  ⟨fun p => s!"({p.hardware}, {p.initDone}, {p.configDone})"⟩

def portProgress (stores : Stores) : Lab PortProgress := do
  let hardware ← stores.asic.handle.observeKeys Asic.portTable
  let app ← stores.app.observeKeys "PORT_TABLE"
  return ⟨hardware.length, app.contains "PortInitDone", app.contains "PortConfigDone"⟩

/-- The third stage: the hardware has all ports and the one of the processor, and the port daemon
is done. -/
def awaitPorts (spec : DeviceSpec) (stores : Stores) : Attempt Unit := ExceptT.mk do
  let cfg := Polling.every spec.pollInterval spec.timeouts.swss true
  let result ← poll s!"{spec.name} port initialization" cfg do
    let p ← portProgress stores
    return (p.hardware = spec.numPorts + 1 && p.initDone && p.configDone, p)
  return result.map fun _ => ()

/-- Tells the switch which buffer model to use, unless it is the one it has anyway. -/
def applyBufferModel (spec : DeviceSpec) (stores : Stores) : Attempt Unit := do
  if spec.bufferModel = .dynamic then
    stores.config.putEntry "DEVICE_METADATA" "localhost" (.ofPairs [("buffer_model", "dynamic")])
    let _ ← Container.shell spec.name "supervisorctl restart buffermgrd"

def reachReady (spec : DeviceSpec) : Attempt Stores := do
  awaitSupervisor spec
  let stores ← connectStores spec
  awaitPorts spec stores
  applyBufferModel spec stores
  return stores

/-- Goes through the stages of readiness. There is nothing to do if the switch is ready. -/
def checkReady : On Device Unit := do
  let d ← get
  match d.state with
  | .ready => return ()
  | .absent | .destroyed => throw (d.refuse "check_ready")
  | .creating | .checkingReadiness =>
    setState .checkingReadiness
    let stores ← orDestroy (reachReady d.spec)
    modify fun d => { d with stores := some stores, state := .ready }

/-- Makes a switch and waits until it is ready. -/
def start (spec : DeviceSpec) : Attempt Device := do
  let d ← create spec
  let (result, d) ← checkReady.perform d
  match result with
  | .ok _ => return d
  | .error fault =>
    d.drop
    throw fault

def restartCommand (d : Device) : Attempt Unit := do
  if d.spec.attach then
    let output ← Container.shell d.name "supervisorctl restart all"
    let _ ← ExceptT.mk (pure (output.orFault "supervisorctl restart all"))
  else
    Container.restart d.name

/-- Restarts the switch and goes through the stages again. The servers stay as they are. -/
def restart : On Device Unit := do
  let d ← get
  if d.state = .absent ∨ d.state = .destroyed then throw (d.refuse "restart")
  modify fun d => { d with stores := none, state := .checkingReadiness }
  d.restartCommand
  checkReady

end Device

end SwitchLab
