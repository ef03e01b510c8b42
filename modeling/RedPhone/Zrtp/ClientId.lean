import RedPhone.Zrtp.Responder

/-!
# Client Ids of Other Clients

The Hello of a peer has room for sixteen characters that say who made it.
Older versions of RedPhone get a Confirm packet with the vector they expect,
which is zero, and two of them are taken to offer a key agreement they do not
list. Both are for RedPhone clients of certain numbers, and other clients are
treated as the protocol says.

The constructor looks at the first two tokens of the id. There may be fewer,
or the first is not the name, and the id is not RedPhone's. When the second is
not a number the handler of the exception says the same, but the constructor
does not end there: the assignment behind the handler is reached on this path
too, and the number is still the zero it was created with. So a client without
a number is taken for the oldest RedPhone there is.

The first token is trimmed before it is compared. It holds no space, but it may
hold a control character, so a name that stands between such characters passes
for RedPhone's as well.

## Main definitions

* `Recognized`: An id that starts with the name and a number.
* `Unnumbered`: An id that starts with the name and something else.
* `Padded`: An id that starts with the name among control characters.
* `NotRedPhone`: How a peer is treated that is no RedPhone client.

## Theorems

* `create_of_named`: The name is enough for the flag.
* `notRedPhone_of_flag`: Everything follows from the flag.
* `notRedPhone_iff`: Which ids that are not recognised are taken for RedPhone's.
-/

namespace RedPhone

namespace RedPhoneClientId

/-- The name RedPhone, and a number. -/
def Recognized (clientId : List Nat) : Prop :=
  ∃ number rest, Text.split clientId = Text.ofString "RedPhone" :: number :: rest ∧
    (Text.parseInt number).isSome = true

/-- The name RedPhone, and something that is not a number. -/
def Unnumbered (clientId : List Nat) : Prop :=
  ∃ name number rest, Text.split clientId = name :: number :: rest ∧
    Text.trim name = Text.ofString "RedPhone" ∧ Text.parseInt number = none

/-- A token that is not the name RedPhone, but is when it has been trimmed, and
    something behind it. -/
def Padded (clientId : List Nat) : Prop :=
  ∃ name number rest, Text.split clientId = name :: number :: rest ∧
    Text.trim name = Text.ofString "RedPhone" ∧ name ≠ Text.ofString "RedPhone"

/-- How a peer with an id is treated if it is not RedPhone's: neither question
    is answered with yes, the Confirm packets sent to it have the random vector,
    and the key agreement is the one its Hello lists. -/
structure NotRedPhone (clientId : List Nat) : Prop where
  flag : (create clientId).isRedphoneClient = false
  legacyConfirm : (create clientId).isLegacyConfirmConnectionVersion = false
  implicitDh3k : (create clientId).isImplicitDh3kVersion = false
  confirmOne : ∀ (C : Crypto) (cfg : Config) (c : Clock) (packet hello : HandshakePacket)
    (s s' : ZRTPResponderSocket), s.role.foreignHello = some hello →
    HelloPacket.getClientId hello = .ok clientId →
    ZRTPResponderSocket.handleDH C cfg c packet s = .ok s' →
    ∃ macKey cipherKey, s'.sent = s.sent ++ [((ConfirmPacket.create C ConfirmPacket.TYPE_ONE macKey
      cipherKey (cfg.hashChain C) cfg.confirmIv s.role.includeLegacyHeaderBug).wire
        s.sequence).data]
  confirmTwo : ∀ (C : Crypto) (cfg : Config) (c : Clock) (packet hello : HandshakePacket)
    (s s' : ZRTPInitiatorSocket), s.role.foreignHello = some hello →
    HelloPacket.getClientId hello = .ok clientId →
    ZRTPInitiatorSocket.handleConfirmOne C cfg c packet s = .ok s' →
    ∃ macKey cipherKey, s'.sent = s.sent ++ [((ConfirmPacket.create C ConfirmPacket.TYPE_TWO macKey
      cipherKey (cfg.hashChain C) cfg.confirmIv s.role.includeLegacyHeaderBug).wire
        s.sequence).data]
  options : ∀ (hello : HandshakePacket) (s : ZRTPInitiatorSocket),
    s.role.foreignHello = some hello → HelloPacket.getClientId hello = .ok clientId →
    s.getKeyAgreementType = (do
      let options ← HelloPacket.getKeyAgreementOptions hello
      .ok (if options.contains (ascii "EC25") then .ec25 else .dh3k))

/-- The constructor, where the id has two tokens. -/
theorem create_of_split {clientId name number : List Nat} {rest : List (List Nat)}
    (h : Text.split clientId = name :: number :: rest) :
    create clientId = if Text.trim name = Text.ofString "RedPhone" then
      ⟨true, (Text.parseInt number).getD 0⟩ else ⟨false, 0⟩ := by
  -- The constructor trims the first token before it compares it.
  unfold create
  rw [h]
  rfl

/-- A first token that trims to the name is enough for the flag. -/
theorem create_of_named {clientId name number : List Nat} {rest : List (List Nat)}
    (hsplit : Text.split clientId = name :: number :: rest)
    (hname : Text.trim name = Text.ofString "RedPhone") :
    (create clientId).isRedphoneClient = true := by
  rw [create_of_split hsplit, if_pos hname]

/-- Apart from such ids, what is not recognised is not RedPhone's. -/
theorem flag_of_not_recognized {clientId : List Nat} (hid : ¬ Recognized clientId)
    (hnumbered : ¬ Unnumbered clientId) (hpadded : ¬ Padded clientId) :
    (create clientId).isRedphoneClient = false := by
  rcases hsplit : Text.split clientId with _ | ⟨name, _ | ⟨number, rest⟩⟩
  · unfold create
    rw [hsplit]
  · unfold create
    rw [hsplit]
  · rw [create_of_split hsplit]
    by_cases hname : Text.trim name = Text.ofString "RedPhone"
    · -- With the name there is a number or there is none, and both are excluded.
      exfalso
      cases hnumber : Text.parseInt number with
      | none => exact hnumbered ⟨name, number, rest, hsplit, hname, hnumber⟩
      | some v =>
          by_cases hliteral : name = Text.ofString "RedPhone"
          · rw [hliteral] at hsplit
            refine hid ⟨number, rest, hsplit, ?_⟩
            rw [hnumber]
            rfl
          · exact hpadded ⟨name, number, rest, hsplit, hname, hliteral⟩
    · rw [if_neg hname]

/-- An id that is recognised has a number. -/
theorem not_unnumbered {clientId : List Nat} (h : Recognized clientId) : ¬ Unnumbered clientId := by
  rcases h with ⟨number, rest, hsplit, hsome⟩
  rintro ⟨name', number', rest', hsplit', _, hnone⟩
  rw [hsplit, List.cons.injEq, List.cons.injEq] at hsplit'
  rw [hsplit'.2.1, hnone] at hsome
  exact nomatch hsome

/-- It starts with the name as it is. -/
theorem not_padded {clientId : List Nat} (h : Recognized clientId) : ¬ Padded clientId := by
  rcases h with ⟨number, rest, hsplit, _⟩
  rintro ⟨name', number', rest', hsplit', _, hliteral⟩
  rw [hsplit, List.cons.injEq] at hsplit'
  exact hliteral hsplit'.1.symm

/-- Without the flag nothing is done for an older version. -/
theorem notRedPhone_of_flag {clientId : List Nat}
    (h : (create clientId).isRedphoneClient = false) : NotRedPhone clientId := by
  -- Both questions are asked of the flag first.
  have hlegacy : (create clientId).isLegacyConfirmConnectionVersion = false := by
    unfold isLegacyConfirmConnectionVersion
    rw [h, Bool.false_and]
  have himplicit : (create clientId).isImplicitDh3kVersion = false := by
    unfold isImplicitDh3kVersion
    rw [h, Bool.false_and]
  -- What the Confirm packets are made with comes from the stored Hello's id.
  have hconnection : ∀ hello, HelloPacket.getClientId hello = .ok clientId →
      isLegacyConfirmConnection hello = .ok false := by
    intro hello hid
    unfold isLegacyConfirmConnection
    rw [hid, Java.ok_bind, hlegacy]
  refine ⟨h, hlegacy, himplicit, ?_, ?_, ?_⟩
  · intro C cfg c packet hello s s' hhello hid hstep
    rcases ZRTPResponderSocket.handleDH_ok hstep with
      ⟨_, masterSecret, hello', legacyConfirm, _, hhello', hlegacyConfirm, rfl⟩
    rw [hhello, Option.some.injEq] at hhello'
    rw [← hhello', hconnection hello hid, Except.ok.injEq] at hlegacyConfirm
    rw [← hlegacyConfirm]
    exact ⟨masterSecret.macR, masterSecret.zrtpKeyR, rfl⟩
  · intro C cfg c packet hello s s' hhello hid hstep
    rcases ZRTPInitiatorSocket.handleConfirmOne_ok hstep with
      ⟨hello', legacyConfirm, masterSecret, _, _, _, hhello', hlegacyConfirm, _, _, _, _, _, _,
        rfl⟩
    rw [hhello, Option.some.injEq] at hhello'
    rw [← hhello', hconnection hello hid, Except.ok.injEq] at hlegacyConfirm
    rw [← hlegacyConfirm]
    exact ⟨masterSecret.macI, masterSecret.zrtpKeyI, rfl⟩
  · intro hello s hhello hid
    unfold ZRTPInitiatorSocket.getKeyAgreementType
    rw [hhello]
    simp only []
    rw [hid, Java.ok_bind, himplicit]
    rfl

/-- An id that is not recognised is treated as that of another client exactly
    when it is neither the name with something behind it that is no number, nor
    the name among characters that are trimmed away. -/
theorem notRedPhone_iff (clientId : List Nat) :
    (¬ Recognized clientId → NotRedPhone clientId) ↔
      ¬ Unnumbered clientId ∧ ¬ Padded clientId := by
  constructor
  · intro h
    -- Such an id is not recognised, and still has the flag.
    refine ⟨fun hunnumbered => ?_, fun hpadded => ?_⟩
    · have hflag := (h fun hid => not_unnumbered hid hunnumbered).flag
      rcases hunnumbered with ⟨name, number, rest, hsplit, hname, _⟩
      rw [create_of_named hsplit hname] at hflag
      exact nomatch hflag
    · have hflag := (h fun hid => not_padded hid hpadded).flag
      rcases hpadded with ⟨name, number, rest, hsplit, hname, _⟩
      rw [create_of_named hsplit hname] at hflag
      exact nomatch hflag
  · rintro ⟨hnumbered, hpadded⟩ hid
    exact notRedPhone_of_flag (flag_of_not_recognized hid hnumbered hpadded)

/-- A Hello of another client with the name in its id. -/
def unnumberedHello : HandshakePacket :=
  ⟨0x10 :: List.replicate 27 0 ++ ascii "RedPhone beta   " ++ List.replicate 60 0, 104⟩

/-- A peer whose number is a word gets Confirm packets with a vector of zeros. -/
theorem notRedPhone_fails :
    (ascii "RedPhone beta   ").length = 16 ∧
    HelloPacket.getClientId unnumberedHello = .ok (Text.ofString "RedPhone beta   ") ∧
    ¬ Recognized (Text.ofString "RedPhone beta   ") ∧
    (create (Text.ofString "RedPhone beta   ")).isLegacyConfirmConnectionVersion = true ∧
    isLegacyConfirmConnection unnumberedHello = .ok true := by
  refine ⟨by decide +kernel, by decide +kernel, ?_, by decide +kernel, by decide +kernel⟩
  rintro ⟨number, rest, hsplit, hsome⟩
  have htokens : Text.split (Text.ofString "RedPhone beta   ")
      = [Text.ofString "RedPhone", Text.ofString "beta"] := by
    decide +kernel
  rw [htokens, List.cons.injEq, List.cons.injEq] at hsplit
  rw [← hsplit.2.1] at hsome
  exact absurd hsome (by decide +kernel)

/-- A name behind a tabulator is not the name, and has both questions answered
    with yes. -/
theorem notRedPhone_fails_padded :
    (ascii "\tRedPhone 19    ").length = 16 ∧
    ¬ Recognized (Text.ofString "\tRedPhone 19    ") ∧
    (create (Text.ofString "\tRedPhone 19    ")).isLegacyConfirmConnectionVersion = true ∧
    (create (Text.ofString "\tRedPhone 19    ")).isImplicitDh3kVersion = true := by
  refine ⟨by decide +kernel, ?_, by decide +kernel, by decide +kernel⟩
  rintro ⟨number, rest, hsplit, _⟩
  -- A tabulator separates nothing: the id is split at blanks alone.
  have htokens : Text.split (Text.ofString "\tRedPhone 19    ")
      = [Text.ofString "\tRedPhone", Text.ofString "19"] := by
    decide +kernel
  rw [htokens, List.cons.injEq] at hsplit
  exact absurd hsplit.1 (by decide +kernel)

end RedPhoneClientId

end RedPhone
