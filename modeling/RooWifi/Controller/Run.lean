import RooWifi.Controller.Code
import RooWifi.Lib.Run

/-! # Runs of the controller

One input is one scheduler step: a public call, a task the scheduler runs, or
a callback of the interface. A task runs only while it is scheduled; nothing
else about the order of inputs is assumed. -/
namespace RooWifi.Controller

inductive Event where
  | call (call : Call)
  | work
  | timer
  | reconnect
  | notify (react : Reaction)
  | operationFinished (result : OperationResult)
  | linkChanged (link : LinkState)
  | enabledChanged (enabled : Bool)

structure Input where
  event : Event
  env : Env := {}

def step (c : Controller) (i : Input) : Controller :=
  match i.event with
  | .call call => c.request i.env call
  | .work => if c.work_ then { c with work_ := false }.execute i.env else c
  | .timer => if c.timer_ ≠ ⊤ then { c with timer_ := ⊤ }.checkTimeouts i.env else c
  | .reconnect => if c.reconnect_ ≠ ⊤ then { c with reconnect_ := ⊤ }.retry i.env else c
  | .notify react => if c.notify_ then { c with notify_ := false }.notifyListeners react else c
  | .operationFinished result => (c.record (.delivered result)).onOperationFinished i.env result
  | .linkChanged link => c.onLinkChanged i.env link
  | .enabledChanged enabled => c.onEnabledChanged enabled

/-! ## A willing environment

For concrete runs: an interface that admits every command and a store that
holds every open network, to be connected automatically, but no last one. -/

def openNetwork (name : UInt8) : ConnectionConfig where
  ssid := { bytes := Octets.load 32 [name], size := 1 }
  security := .kOpen

def Env.willing : Env where
  support := { authenticationModes := 0xffffffff }
  readEnabled := (.kOk, true)
  loadProfile _ ssid :=
    (.kOk, { settings := { connection := { ssid, security := .kOpen }, autoConnect := true } })
  loadCredentials _ := (.kOk, {})

/-- An input met by the willing environment. -/
def willing (event : Event) : Input := { event, env := .willing }

/-- Starts, enables the radio and settles with nothing to restore. -/
def startUp : List Input :=
  [willing (.call .begin), willing .work, willing (.enabledChanged true),
    willing (.operationFinished { id := 1, kind := .kEnable }), willing .work, willing .work]

/-- Connects to the saved network `name` with operation 2. -/
def connectUp (name : UInt8) : List Input :=
  [willing (.call (.connectSaved (openNetwork name).ssid)), willing .work,
    willing (.linkChanged { connectionId := 2, phase := .kAddressReady }),
    willing (.operationFinished { id := 2, kind := .kConnect })]

end RooWifi.Controller
