/-
When a client speaks encrypted.  A certificate is looked at under every scheme, and one that encryption cannot be set
up with keeps the client from connecting.  Once it is accepted, only the scheme of the endpoint counts: under `https`
the channel is encrypted with it, under every other scheme the channel is the plaintext one that the client has
without any certificate.  The address that the program takes by default has such a scheme.
-/
import Mathlib.Tactic.Common
import TaskTail.CommandLine.Program

namespace TaskTail

section Channel

variable {encrypts : ByteArray → String → Bool} {e : Endpoint} {channel : Channel}

/-- With a certificate that is accepted a channel comes about under every scheme; `https` encrypts it. -/
theorem Endpoint.channel_certified (encrypts : ByteArray → String → Bool) (e : Endpoint)
    (certificate : ByteArray) (domain : Option String) :
    e.channel encrypts (some certificate) domain =
      if encrypts certificate (e.serverName domain) then
        .ok ⟨e, if e.scheme = .https then .encrypted certificate (e.serverName domain)
          else .plaintext⟩
      else .error transportFailure := by
  cases haccepted : encrypts certificate (e.serverName domain) with
  | false => simp [Endpoint.channel, haccepted]
  | true =>
      cases hscheme : e.scheme with
      | https | http | other name => simp [Endpoint.channel, haccepted, hscheme]

/-- Without a certificate there is no channel under `https`, and a plaintext one under every other scheme. -/
theorem Endpoint.channel_uncertified (encrypts : ByteArray → String → Bool) (e : Endpoint)
    (domain : Option String) :
    e.channel encrypts none domain =
      if e.scheme = .https then .error transportFailure else .ok ⟨e, .plaintext⟩ := by
  cases hscheme : e.scheme with
  | https | http | other name => simp [Endpoint.channel, hscheme]

/-- Whether a channel is encrypted can be read off its scheme; the certificate has no part in it. -/
theorem Endpoint.isPlaintext_channel {certificate : Option ByteArray} {domain : Option String}
    (hchannel : e.channel encrypts certificate domain = .ok channel) :
    channel.security.isPlaintext = true ↔ e.scheme ≠ .https := by
  cases certificate with
  | none =>
      rw [channel_uncertified] at hchannel
      split at hchannel
      · cases hchannel
      · rename_i hscheme
        cases hchannel
        exact iff_of_true rfl hscheme
  | some certificate =>
      rw [channel_certified] at hchannel
      split at hchannel
      · cases hchannel
        by_cases hscheme : e.scheme = .https
        · simp [hscheme, Security.isPlaintext]
        · simp [hscheme, Security.isPlaintext]
      · cases hchannel

end Channel

section Connect

variable {α : Type} {network : Network α} {endpoint : String} {domain : Option String} {peer : α}

/-- Under any other scheme than `https`, a certificate that is accepted changes nothing: the client gets what it
gets without one, by the same channel. -/
theorem connect_certified_eq_uncertified {e : Endpoint} (hparse : Endpoint.parse? endpoint = some e)
    (hscheme : e.scheme ≠ .https) {certificate : ByteArray}
    (haccepted : network.encrypts certificate (e.serverName domain) = true) :
    connect network endpoint (some certificate) domain = connect network endpoint none none := by
  simp only [connect, hparse, Endpoint.channel_certified, Endpoint.channel_uncertified, haccepted,
    hscheme, if_true, if_false]

end Connect

end TaskTail
