import Bumper.Python.Url
import Bumper.Plugin.Auth

/-! # The upstream connection of a proxied bot

In proxy mode `authenticate` stores for a bot an upstream client whose broker URI is
`f"mqtts://{username}:{password}@{mqtt_server}:443"` (`upstreamUri`), and awaits its `connect`.
hbmqtt's `connect` runs `_connect_coro`, which reads that URI back with `urlparse` into the
session's username, password, remote address and port (`connectCoro`); the session of a new
client has no username or password of its own. The URI puts the parts together with `:` and `@`
and escapes nothing, so the parse gives them back only when no part holds a character that the
parse reads as a delimiter:

* `upstream_endpoint_of_plain_parts`: for ASCII parts without `/`, `?`, `#`, brackets, tabs or
  line breaks, a username without `:`, a password without `@`, and a host that is not empty and
  has neither `@` nor `:`, the connection uses TLS, the username, the password, the host up to
  ASCII case, and port 443;
* `colon_in_username_moves_to_password`: a `:` in the username ends the username there; the rest
  of it goes to the password. -/

namespace Bumper.ProxyClient

open Bumper.Python Bumper.Plugin.Auth

/-- The session fields `_connect_coro` sets from the broker URI. -/
structure Endpoint where
  secure : Bool
  username : Option String
  password : Option String
  remoteAddress : Option String
  remotePort : Option Nat
deriving DecidableEq, Repr

/-- Lines 210-224 of `_connect_coro`, for a session whose username and password are `sessUser`
and `sessPassword`: the scheme decides TLS and the default port (`not remote_port` holds for
`None` and `0`). The rewrite of a `ws` or `wss` URI that follows is not modelled. -/
def connectCoro {σ : Type} (uc : Unicode) (sessUser sessPassword : Option String)
    (brokerUri : String) : PyM σ Endpoint := do
  let uriAttributes ← urlparse uc brokerUri
  let scheme := uriAttributes.scheme
  let secure := scheme == "mqtts" || scheme == "wss"
  let username := if truthy sessUser then sessUser else uriAttributes.username
  let password := if truthy sessPassword then sessPassword else uriAttributes.password
  let remoteAddress := uriAttributes.hostname uc
  let remotePort ← uriAttributes.port uc
  let remotePort :=
    if (scheme == "mqtt" || scheme == "mqtts") && remotePort.getD 0 == 0 then
      some (if scheme == "mqtts" then 8883 else 1883)
    else remotePort
  let remotePort :=
    if (scheme == "ws" || scheme == "wss") && remotePort.getD 0 == 0 then
      some (if scheme == "wss" then 443 else 80)
    else remotePort
  pure ⟨secure, username, password, remoteAddress, remotePort⟩

/-- **The upstream URI gives back the bot's credentials and the server.** For ASCII parts that
hold none of the characters the parse stops at or removes (`plainChar`), a username without `:`,
any password, and a host that is not empty and has neither `@` nor `:`, the upstream client
connects over TLS as the bot, with its password, to the host (up to ASCII case) on port 443,
whatever the Unicode database. An `@` in the username or the password is harmless: the parse
splits the location at its last `@`. -/
theorem upstream_endpoint_of_plain_parts {σ : Type} (uc : Unicode) (u p h : String)
    (hu : ∀ c ∈ u.data, plainChar c ∧ c ≠ ':') (hp : ∀ c ∈ p.data, plainChar c)
    (hh : ∀ c ∈ h.data, plainChar c ∧ c ≠ '@' ∧ c ≠ ':') (hne : h ≠ "") (s : σ) :
    ∃ e, (connectCoro uc none none (upstreamUri (some u) (some p) h)).run s = .ok e s ∧
      e.secure = true ∧ e.username = some u ∧ e.password = some p ∧
      e.remoteAddress.map asciiLower = some (asciiLower h) ∧ e.remotePort = some 443 := by
  have hplain : ∀ c ∈ (u ++ ":" ++ p ++ "@" ++ h ++ ":443").data, plainChar c := by
    simp only [String.data_append, List.forall_mem_append]
    exact ⟨⟨⟨⟨⟨fun c hc => (hu c hc).1, by decide⟩, hp⟩, by decide⟩,
      fun c hc => (hh c hc).1⟩, by decide⟩
  have hui : (SplitResult.mk "mqtts" (u ++ ":" ++ p ++ "@" ++ h ++ ":443")).userinfo =
      (some u, some p) :=
    userinfo_eq (show _ = u.data ++ ':' :: (p.data ++ '@' :: (h ++ ":443").data) by simp)
      (fun hc => (hu _ hc).2 rfl) (by simpa using fun hc => (hh _ hc).2.1 rfl)
  have hhi : (SplitResult.mk "mqtts" (u ++ ":" ++ p ++ "@" ++ h ++ ":443")).hostinfo =
      (h, some "443") :=
    hostinfo_eq (show _ = (u ++ ":" ++ p).data ++ '@' :: (h.data ++ ':' :: "443".data) by simp)
      ⟨fun hc => (hh _ hc).2.1 rfl, fun hc => (hh _ hc).2.2 rfl,
        fun hc => ne_of_plainChar (hh _ hc).1 (by decide) rfl⟩ (by decide) (by decide)
  refine ⟨⟨true, some u, some p,
    (SplitResult.mk "mqtts" (u ++ ":" ++ p ++ "@" ++ h ++ ":443")).hostname uc, some 443⟩,
    ?_, rfl, rfl, rfl, ?_, rfl⟩
  · -- the parse, property by property
    have huri : upstreamUri (some u) (some p) h =
        "mqtts://" ++ (u ++ ":" ++ p ++ "@" ++ h ++ ":443") := by
      simp only [upstreamUri, fmt, String.append_assoc]
    rw [connectCoro, huri, run_bind, run_urlparse_mqtts uc hplain]
    dsimp only
    rw [run_bind, run_port_443 uc (congrArg Prod.snd hhi)]
    simp only [SplitResult.username, SplitResult.password, hui, run_pure]
    rfl
  · -- the host name
    dsimp only
    exact hostname_map_asciiLower uc (by rw [hhi]) hne
      fun c hc => toNat_lt_of_plainChar (hh c hc).1

theorem upstream_endpoint_of_plain_parts_bot :
    ∃ e, (connectCoro Unicode.asciiOnly none none
        (upstreamUri (some "bot") (some "p@w") "mqtt.ecouser.net")).run () = .ok e () ∧
      e.secure = true ∧ e.username = some "bot" ∧ e.password = some "p@w" ∧
      e.remoteAddress.map asciiLower = some (asciiLower "mqtt.ecouser.net") ∧
      e.remotePort = some 443 :=
  upstream_endpoint_of_plain_parts Unicode.asciiOnly "bot" "p@w" "mqtt.ecouser.net" (by decide)
    (by decide) (by decide) (by decide) ()

/-- A `:` in the username ends it there, and the rest of it goes to the password. -/
theorem colon_in_username_moves_to_password :
    (connectCoro Unicode.asciiOnly none none
        (upstreamUri (some "a:b") (some "pw") "mqtt.ecouser.net")).run () =
      .ok ⟨true, some "a", some "b:pw", some "mqtt.ecouser.net", some 443⟩ () :=
  rfl

end Bumper.ProxyClient
