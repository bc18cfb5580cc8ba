import Mathlib.Data.List.AList
import Bumper.Helperbot

/-! # The state the broker plugin shares

One process holds the plugin `BumperMQTTServer_Plugin`, the helper bot `bumper.mqtt_helperbot`,
the upstream clients `BumperProxyModeMQTTClient` of proxy mode and the device registry
`bumper.db`. The hooks read and write:

* `proxyclients`, the plugin's class-level dict from client id to upstream client, and
  `proxies`, every upstream client created so far, indexed in order of creation (an entry of
  `proxyclients` is an index into `proxies`);
* `ecoHelperNames`, `BumperProxyModeMQTTClient.eco_helper_names`: a class attribute, so one dict
  for all upstream clients;
* `commandResponses`, the helper bot's response buffer;
* `registry`, the device registry, which is not part of the source and is modelled from the spec;
* `outbox`, what the code publishes and subscribes to, in order.

`Config` holds the settings and capabilities the hooks read; `AuthExt` what the collaborators
outside the source answer during one `authenticate`, a `none` or `false` answer standing for a call
that raises. -/

namespace Bumper.Server

open Bumper.Python Bumper.Helperbot

/-! ### The device registry -/

/-- Modelled from the spec: a bot entry of the device registry `bumper.db`, which is missing from
the source ("persistent mapping from device identity to metadata and live-connection flag"),
keyed by its DID. -/
structure Bot where
  did : String
  sn : Option String
  devClass : String
  resource : String
  company : String
  mqttConnection : Bool
deriving DecidableEq, Repr

/-- Modelled from the spec: an operator client entry of `bumper.db`, keyed by its resource. -/
structure Client where
  userid : String
  realm : String
  resource : String
  mqttConnection : Bool
deriving DecidableEq, Repr

/-- Modelled from the spec: the registry, "a simple key-value record store exposing
add/get/remove/set-connected operations per device identity". -/
structure Registry where
  bots : List Bot
  clients : List Client
deriving DecidableEq, Repr

namespace Registry

/-- Modelled from the spec: `bumper.bot_add(sn, did, class, resource, company)` upserts the bot
with that DID. The spec lists only the serial number, the DID, the class and the resource (and the
company) as what the upsert writes, so an entry already there keeps its `mqtt_connection` flag; a
new entry is not live. -/
def botAdd (r : Registry) (sn : Option String) (did devClass resource company : String) :
    Registry :=
  if r.bots.any (·.did == did) then
    { r with bots := r.bots.map fun b =>
        if b.did = did then
          { b with sn := sn, devClass := devClass, resource := resource, company := company }
        else b }
  else { r with bots := r.bots ++ [⟨did, sn, devClass, resource, company, false⟩] }

/-- Modelled from the spec: `bumper.bot_get(did)`. -/
def botGet (r : Registry) (did : String) : Option Bot := r.bots.find? (·.did == did)

/-- Modelled from the spec: `bumper.bot_set_mqtt(did, connected)`. -/
def botSetMqtt (r : Registry) (did : String) (connected : Bool) : Registry :=
  { r with bots := r.bots.map fun b =>
      if b.did = did then { b with mqttConnection := connected } else b }

/-- Modelled from the spec: `bumper.client_add(userid, realm, resource)` upserts the client with
that resource, writing its user id and realm; an entry already there keeps its `mqtt_connection`
flag, and a new entry is not live. -/
def clientAdd (r : Registry) (userid realm resource : String) : Registry :=
  if r.clients.any (·.resource == resource) then
    { r with clients := r.clients.map fun c =>
        if c.resource = resource then { c with userid := userid, realm := realm } else c }
  else { r with clients := r.clients ++ [⟨userid, realm, resource, false⟩] }

/-- Modelled from the spec: `bumper.client_get(resource)`. -/
def clientGet (r : Registry) (resource : String) : Option Client :=
  r.clients.find? (·.resource == resource)

/-- Modelled from the spec: `bumper.client_set_mqtt(resource, connected)`. -/
def clientSetMqtt (r : Registry) (resource : String) (connected : Bool) : Registry :=
  { r with clients := r.clients.map fun c =>
      if c.resource = resource then { c with mqttConnection := connected } else c }

@[simp] theorem botAdd_clients (r : Registry) (sn : Option String)
    (did devClass resource company : String) :
    (r.botAdd sn did devClass resource company).clients = r.clients := by
  unfold botAdd; split <;> rfl

@[simp] theorem clientAdd_bots (r : Registry) (userid realm resource : String) :
    (r.clientAdd userid realm resource).bots = r.bots := by
  unfold clientAdd; split <;> rfl

theorem did_of_botGet {r : Registry} {x : String} {b : Bot} (h : r.botGet x = some b) :
    b.did = x := by
  simpa using List.find?_some h

theorem resource_of_clientGet {r : Registry} {x : String} {c : Client}
    (h : r.clientGet x = some c) : c.resource = x := by
  simpa using List.find?_some h

theorem botGet_botSetMqtt (r : Registry) (did x : String) (connected : Bool) :
    (r.botSetMqtt did connected).botGet x =
      (r.botGet x).map fun b =>
        if b.did = did then { b with mqttConnection := connected } else b := by
  simp only [botGet, botSetMqtt, List.find?_map]
  congr 2
  funext b
  simp only [Function.comp_apply]; split <;> rfl

theorem botSetMqtt_botSetMqtt (r : Registry) (did : String) (connected : Bool) :
    (r.botSetMqtt did connected).botSetMqtt did connected = r.botSetMqtt did connected := by
  simp only [botSetMqtt, List.map_map]
  congr 2
  funext b
  by_cases h : b.did = did <;> simp [h]

theorem botGet_clientSetMqtt (r : Registry) (resource x : String) (connected : Bool) :
    (r.clientSetMqtt resource connected).botGet x = r.botGet x := rfl

theorem clientGet_clientSetMqtt (r : Registry) (resource x : String) (connected : Bool) :
    (r.clientSetMqtt resource connected).clientGet x =
      (r.clientGet x).map fun c =>
        if c.resource = resource then { c with mqttConnection := connected } else c := by
  simp only [clientGet, clientSetMqtt, List.find?_map]
  congr 2
  funext c
  simp only [Function.comp_apply]; split <;> rfl

theorem clientSetMqtt_clientSetMqtt (r : Registry) (resource : String) (connected : Bool) :
    (r.clientSetMqtt resource connected).clientSetMqtt resource connected =
      r.clientSetMqtt resource connected := by
  simp only [clientSetMqtt, List.map_map]
  congr 2
  funext c
  by_cases h : c.resource = resource <;> simp [h]

/-! ### Live flags -/

/-- The live flag of bot `did`, if the registry has a bot of that DID. -/
def liveFlag (r : Registry) (did : String) : Option Bool := (r.botGet did).map (·.mqttConnection)

/-- A change to every bot that keeps its DID moves the bot found for a DID along. -/
theorem botGet_map {f : Bot → Bot} (hf : ∀ b, (f b).did = b.did) (r : Registry) (x : String) :
    ({ r with bots := r.bots.map f } : Registry).botGet x = (r.botGet x).map f := by
  simp only [botGet, List.find?_map]
  congr 2
  funext b
  simp [hf]

/-- `bot_add` keeps the live flag of every bot already registered. -/
theorem liveFlag_botAdd {r : Registry} {d : String} {v : Bool} (h : r.liveFlag d = some v)
    (sn : Option String) (did devClass resource company : String) :
    (r.botAdd sn did devClass resource company).liveFlag d = some v := by
  unfold botAdd
  split
  · rw [liveFlag, botGet_map (by intro b; split <;> rfl), Option.map_map, ← h, liveFlag]
    congr 1
    funext b
    simp only [Function.comp_apply]
    split <;> rfl
  · obtain ⟨b, hb, rfl⟩ := Option.map_eq_some'.1 h
    simp only [liveFlag, botGet, List.find?_append]
    rw [show r.bots.find? (·.did == d) = some b from hb]
    rfl

@[simp] theorem liveFlag_clientAdd (r : Registry) (userid realm resource d : String) :
    (r.clientAdd userid realm resource).liveFlag d = r.liveFlag d := by
  unfold clientAdd; split <;> rfl

theorem liveFlag_botSetMqtt (r : Registry) (did : String) (connected : Bool) (d : String) :
    (r.botSetMqtt did connected).liveFlag d =
      if d = did then (r.liveFlag d).map fun _ => connected else r.liveFlag d := by
  rw [liveFlag, botGet_botSetMqtt]
  rcases hb : r.botGet d with _ | b
  · simp [liveFlag, hb]
  · have hd := did_of_botGet hb
    by_cases h : d = did
    · subst h; simp [liveFlag, hb, hd]
    · simp [liveFlag, hb, hd, h]

@[simp] theorem liveFlag_clientSetMqtt (r : Registry) (resource : String) (connected : Bool)
    (d : String) : (r.clientSetMqtt resource connected).liveFlag d = r.liveFlag d := rfl

end Registry

/-! ### Messages and upstream clients -/

/-- The sender id `get_msg` writes into segment 3 of a relayed command (line 309), which the
message hook tests for (lines 491-493). -/
def proxyhelper : String := "proxyhelper"

/-- An MQTT message as the hooks read it: `message.topic`, `message.data`, `message.qos`. -/
structure Message where
  topic : String
  data : Bytes
  qos : Nat
deriving DecidableEq, Repr

/-- A `BumperProxyModeMQTTClient`: the client id it was created with, the URI `authenticate`
passed to `connect`, whether its session is connected, and whether its `get_msg` task still runs. -/
structure ProxyClient where
  clientId : String
  uri : String
  connected : Bool
  relaying : Bool
deriving DecidableEq, Repr

/-- What the code sends out: a publish on upstream client `h`, a subscription on it, or a publish
by the helper bot's client on the local broker. -/
inductive Outgoing
  | upstream (h : Nat) (topic : String) (data : Bytes) (qos : Nat)
  | subscribe (h : Nat) (topic : String) (qos : Nat)
  | broker (topic : String) (data : Bytes) (qos : Nat)
deriving DecidableEq, Repr

/-- A publish on the vendor's server, through an upstream client. -/
def Outgoing.isUpstream : Outgoing → Bool
  | .upstream .. => true
  | _ => false

/-- The state the hooks share. -/
structure State where
  proxyclients : AList (fun _ : String => Nat)
  proxies : List ProxyClient
  ecoHelperNames : AList (fun _ : String => String)
  commandResponses : List Record
  registry : Registry
  outbox : List Outgoing

/-- No upstream client, no helper name, no response and nothing sent yet: the state after start-up,
over a registry `registry` kept from earlier runs. -/
def State.init (registry : Registry) : State := ⟨∅, [], ∅, [], registry, []⟩

/-- A call into the device registry `bumper.db`, made by a hook. -/
def onRegistry {α : Type} (x : PyM Registry α) : PyM State α := fun s =>
  match x.run s.registry with
  | .ok a r => .ok a { s with registry := r }
  | .error e r => .error e { s with registry := r }

theorem finalState_onRegistry {α : Type} (x : PyM Registry α) (s : State) :
    finalState ((onRegistry x).run s) = { s with registry := finalState (x.run s.registry) } := by
  show finalState (onRegistry x s) = _
  unfold onRegistry; cases x.run s.registry <;> rfl

theorem run_onRegistry_of_ok {α : Type} {x : PyM Registry α} {s : State} {a : α} {r : Registry}
    (h : x.run s.registry = .ok a r) : (onRegistry x).run s = .ok a { s with registry := r } := by
  show onRegistry x s = _
  unfold onRegistry
  rw [h]

theorem keeps_onRegistry {α β : Type} (f : State → β) (hf : ∀ s r, f { s with registry := r } = f s)
    (x : PyM Registry α) : Keeps f (onRegistry x) := fun s => by
  rw [finalState_onRegistry]; exact hf s _

/-! ### What the hooks read from outside -/

/-- The settings and capabilities the hooks read: `bumper.bumper_proxy_mode`, `bumper.use_auth`,
`auth_config.get("allow-anonymous", True)` (`none` when the key is absent), the users that
`_read_password_file` read, and passlib's `verify(password, hash)`. -/
structure Config where
  proxyMode : Bool
  useAuth : Bool
  allowAnonymous : Option Bool
  users : AList (fun _ : String => String)
  verify : Option String → String → Bool

/-- The session fields `authenticate` reads. -/
structure Session where
  username : Option String
  password : Option String
  clientId : String
deriving DecidableEq, Repr

/-- What the collaborators outside the source answer during one `authenticate`: whether
`bot_add` and `client_add` return, what `check_authcode` and
`config_proxyMode_getServerIP("mqtt_server", "")` return (`none`: the call raises), and whether
the upstream `connect` succeeds. -/
structure AuthExt where
  botAddOk : Bool
  clientAddOk : Bool
  checkAuthcode : Option Bool
  serverIp : Option String
  connectOk : Bool
deriving DecidableEq, Repr

end Bumper.Server
