import EbsiDid.Proofs.Registrar.Naming
import EbsiDid.Proofs.Registrar.Preparation
import EbsiDid.Proofs.Wallet.Material

set_option autoImplicit false

/-!
Creations for which the private keys are drawn. Any bytes can be drawn, but not all of them are the number of a
private key: those of zero are refused at the import, and so are those of the order of the curve and beyond.
-/
namespace EbsiDid

open KeyManager (InRange Importable KidFits)

-- The stream without its next bytes.
def RandomStream.skip (r : RandomStream) (n : Nat) : RandomStream := { r with bytes := r.bytes.drop n }

theorem RandomStream.skip_length (r : RandomStream) (n : Nat) : (r.skip n).bytes.length = r.bytes.length - n :=
  List.length_drop

theorem RandomStream.private_key_drawn {r : RandomStream} {n : Nat} (enough : n ≤ r.bytes.length) :
    r.privateKeyHex (.int n) none = (.ok (Hex.encode (r.bytes.take n)), r.skip n) := by
  simp only [privateKeyHex, take_bytes r enough]
  rfl

def Desk.skip {τ : Type} (d : Desk τ) (n : Nat) : Desk τ := { d with random := d.random.skip n }

theorem Desk.skip_skip {τ : Type} (d : Desk τ) (m n : Nat) : (d.skip m).skip n = d.skip (m + n) := by
  simp only [skip, RandomStream.skip, List.drop_drop]

namespace EbsiRegistrar

variable {τ : Type}

-- The material of a key for which nothing is asked.
def generated (kms : Value) (type : KeyType) (bytes : Bytes) (isController : Bool) : ImportableKey :=
  ⟨kms, type, .text (Hex.encode bytes), .null, PurposeSet.defaultFor type, .bool isController⟩

theorem generated_importable_iff (kms : Value) (type : KeyType) (bytes : Bytes) (isController : Bool) :
    Importable (generated kms type bytes isController) ↔ InRange type (Encoding.toNat bytes) :=
  KeyManager.bytes_importable_iff rfl nofun

theorem generated_refused {kms : Value} {type : KeyType} {bytes : Bytes} {isController : Bool}
    (outside : ¬ InRange type (Encoding.toNat bytes)) (d : Desk τ) :
    Act.importKey (generated kms type bytes isController) d = ⟨.error (.privateKeyInvalid type), [], d⟩ :=
  import_key_refused (fun m => KeyManager.import_key_out_of_range rfl outside m) d

theorem importable_key_generated {keyOptions : Value} (unasked : optionsOf keyOptions = .ok []) (kms : Value) (type : KeyType)
    (isController : Bool) (fits : isController = true → type = .secp256k1) {d : Desk τ} {n : Nat}
    (enough : n ≤ d.random.bytes.length) :
    importableKey keyOptions type kms (.int n) isController d =
      ⟨.ok (generated kms type (d.random.bytes.take n) isController), [], d.skip n⟩ := by
  have typed : keyTypeFor [] type isController = .ok type := by
    cases isController with
    | false => rfl
    | true =>
        rw [fits rfl]
        rfl
  have supplied : suppliedKey (Record.get "private_key_hex" []) = .ok none := rfl
  have drawn : Act.draw (fun r => r.privateKeyHex (.int n) none) d =
      ⟨.ok (Hex.encode (d.random.bytes.take n)), [], d.skip n⟩ := by
    simp only [Act.draw, RandomStream.private_key_drawn enough]
    rfl
  rw [importableKey, unasked, Act.of_except_bind_ok, typed, Act.of_except_bind_ok]
  rw [supplied, Act.of_except_bind_ok, Act.bind_of_run drawn]
  rfl

-- How many bytes are drawn for the id.
def idTaken (o : Record) : Nat := if (o.get "method_specific_id").truthy then 0 else 16

theorem id_chosen (o : Record) {d : Desk τ} (enough : idTaken o ≤ d.random.bytes.length) :
    ∃ id, chooseId o DidSpec.v1 d = ⟨.ok id, [], d.skip (idTaken o)⟩ := by
  by_cases given : (o.get "method_specific_id").truthy = true
  · rw [chooseId, if_pos given, idTaken, if_pos given]
    exact ⟨_, rfl⟩
  · rw [idTaken, if_neg given] at enough ⊢
    have plenty : d.random.Suffices DidSpec.v1 (some 1) (some 16) := ⟨rfl, rfl, enough⟩
    rw [chooseId, if_neg given]
    refine ⟨multibaseMark ++ Base58.encode (d.random.idMaterial (some 1) (some 16)), ?_⟩
    simp only [Act.draw, RandomStream.draws_id plenty]
    rfl

-- A creation of the usual kind that is not written to the registry, with nothing asked of its keys.
structure Unattended (reg : EbsiRegistrar) (kms : Value) (choice : SpecChoice) (o : Record) : Prop where
  kms : (kms.orElse reg.defaultKms).truthy = true
  usual : specOf choice o = some DidSpec.v1
  offline : executes o = false
  controllerKey : optionsOf (o.get "secp256k1_key") = .ok []
  secondKey : optionsOf (o.get "secp256r1_key") = .ok []

-- The bytes that are drawn for the two keys.
def controllerDraw (r : RandomStream) (o : Record) : Bytes := (r.bytes.drop (idTaken o)).take 32

def secondDraw (r : RandomStream) (o : Record) : Bytes := (r.bytes.drop (idTaken o + 32)).take 32

section Unattended

variable {reg : EbsiRegistrar} {kms : Value} {choice : SpecChoice} {o : Record} {d : Desk τ}

theorem plan_generated (unattended : Unattended reg kms choice o) (enough : idTaken o + 64 ≤ d.random.bytes.length) :
    ∃ plan, (reg.plan kms choice o d).result = .ok plan ∧
      plan.controller = generated (kms.orElse reg.defaultKms) .secp256k1 (controllerDraw d.random o) true ∧
      plan.second = generated (kms.orElse reg.defaultKms) .secp256r1 (secondDraw d.random o) false := by
  have specified : specFor (kms.orElse reg.defaultKms) choice o = .ok DidSpec.v1 := by
    have usual : DidSpec.key.alike DidSpec.v1 = false := by decide
    simp [specFor, unattended.offline, unattended.usual, unattended.kms, usual]
  have enoughForId : idTaken o ≤ d.random.bytes.length := by omega
  have enoughForController : 32 ≤ (d.random.skip (idTaken o)).bytes.length := by
    rw [RandomStream.skip_length]
    omega
  have enoughForSecond : 32 ≤ (d.random.skip (idTaken o + 32)).bytes.length := by
    rw [RandomStream.skip_length]
    omega
  obtain ⟨id, chosen⟩ := id_chosen o enoughForId
  have controllerMade : importableKey _ .secp256k1 (kms.orElse reg.defaultKms) (.int 32) true (d.skip (idTaken o)) = _ :=
    importable_key_generated unattended.controllerKey _ .secp256k1 true (fun _ => rfl) enoughForController
  have secondMade : importableKey _ .secp256r1 (kms.orElse reg.defaultKms) (.int 32) false (d.skip (idTaken o + 32)) = _ :=
    importable_key_generated unattended.secondKey _ .secp256r1 false nofun enoughForSecond
  rw [Desk.skip_skip] at controllerMade secondMade
  exact ⟨_, congrArg Ended.result (plan_of_parts specified chosen controllerMade secondMade), rfl, rfl⟩

-- How a creation ends for the bytes that are drawn.
structure Generated (r : RandomStream) (o : Record) (ended : Ended τ Identifier) : Prop where
  returns : (∃ i, ended.result = .ok i) ↔
    InRange .secp256k1 (Encoding.toNat (controllerDraw r o)) ∧ InRange .secp256r1 (Encoding.toNat (secondDraw r o))
  controllerRefused : ¬ InRange .secp256k1 (Encoding.toNat (controllerDraw r o)) →
    ended.result = .error (.privateKeyInvalid .secp256k1)
  secondRefused : InRange .secp256k1 (Encoding.toNat (controllerDraw r o)) →
    ¬ InRange .secp256r1 (Encoding.toNat (secondDraw r o)) → ended.result = .error (.privateKeyInvalid .secp256r1)

theorem create_generated (p : Partners τ) (nickname : Value) {options : Value} (given : optionsOf options = .ok o)
    (unattended : Unattended reg kms choice o) (enough : idTaken o + 64 ≤ d.random.bytes.length) :
    Generated d.random o (reg.createIdentifier p kms nickname choice options d) := by
  obtain ⟨plan, planned, controllerMaterial, secondMaterial⟩ := plan_generated unattended enough
  rw [create_planned reg p kms nickname choice options d ⟨given, planned⟩]
  by_cases first : InRange .secp256k1 (Encoding.toNat (controllerDraw d.random o))
  · have controllerFits : Importable plan.controller := by
      rw [controllerMaterial]
      exact (generated_importable_iff _ _ _ _).mpr first
    obtain ⟨controller, text, derivesController⟩ := (KeyManager.derives_iff plan.controller).mpr controllerFits
    by_cases last : InRange .secp256r1 (Encoding.toNat (secondDraw d.random o))
    · have secondFits : Importable plan.second := by
        rw [secondMaterial]
        exact (generated_importable_iff _ _ _ _).mpr last
      obtain ⟨second, secondText, derivesSecond⟩ := (KeyManager.derives_iff plan.second).mpr secondFits
      have finished := carry_out_finished reg p nickname o derivesController derivesSecond
        { d with random := (reg.plan kms choice o d).desk.random }
      have made := (finished.unwritten unattended.offline).1
      exact ⟨⟨fun _ => ⟨first, last⟩, fun _ => ⟨_, made⟩⟩, fun outside => absurd first outside,
        fun _ outside => absurd last outside⟩
    · have refused (d : Desk τ) : Act.importKey plan.second d = ⟨.error (.privateKeyInvalid .secp256r1), [], d⟩ := by
        rw [secondMaterial]
        exact generated_refused last d
      rw [carry_out_half_imported reg p nickname o derivesController refused]
      exact ⟨⟨nofun, fun both => absurd both.2 last⟩, fun outside => absurd first outside, fun _ _ => rfl⟩
  · have refused (d : Desk τ) : Act.importKey plan.controller d = ⟨.error (.privateKeyInvalid .secp256k1), [], d⟩ := by
      rw [controllerMaterial]
      exact generated_refused first d
    rw [carry_out_unimported reg p nickname o (refused _)]
    exact ⟨⟨nofun, fun both => absurd both.1 first⟩, fun _ => rfl, fun both => absurd both first⟩

end Unattended

-- What is drawn for a private key is taken by a key manager if and only if it is the number of one, and a creation that
-- asks for nothing of its own succeeds if and only if this is so for both keys.
theorem drawn_keys_taken (reg : EbsiRegistrar) (p : Partners τ) (kms nickname : Value) (choice : SpecChoice)
    (options : Value) (d : Desk τ) :
    (∀ (r : RandomStream) (n : Nat), n ≤ r.bytes.length → ∃ digits, r.privateKeyHex (.int n) none = (.ok digits, r.skip n) ∧
      ∀ (key : ImportableKey) (m : KeyManager), key.privateKeyHex = .text digits → KidFits key.kid →
        ((∃ k, (m.importKey key).1.result = .ok k) ↔ InRange key.type (Encoding.toNat (r.bytes.take n)))) ∧
    ∀ o, optionsOf options = .ok o → Unattended reg kms choice o → idTaken o + 64 ≤ d.random.bytes.length →
      Generated d.random o (reg.createIdentifier p kms nickname choice options d) := by
  constructor
  · intro r n enough
    refine ⟨_, RandomStream.private_key_drawn enough, ?_⟩
    intro key m material fits
    rw [KeyManager.import_returns_iff]
    exact KeyManager.bytes_importable_iff material fits
  · intro o given unattended enough
    exact create_generated p nickname given unattended enough

theorem drawn_keys_taken_one :
    let reg : EbsiRegistrar := ⟨.null, []⟩
    let p : Partners (List Rehearsal.Prepared) := ⟨LedgerSession.scripted, .keyManager, .int 0⟩
    let d : Desk (List Rehearsal.Prepared) :=
      ⟨⟨List.replicate 16 0 ++ Sec1.coordinate 1 ++ Sec1.coordinate 1, []⟩, KeyManager.empty, []⟩
    (Unattended reg (.text "local") .usual [] ∧ idTaken [] + 64 ≤ d.random.bytes.length) ∧
      (∃ digits, d.random.privateKeyHex (.int 32) none = (.ok digits, d.random.skip 32)) ∧
      ∃ i, (reg.createIdentifier p (.text "local") .null .usual .null d).result = .ok i := by
  intro reg p d
  have unattended : Unattended reg (.text "local") .usual [] := ⟨rfl, rfl, rfl, rfl, rfl⟩
  have enough : idTaken [] + 64 ≤ d.random.bytes.length := by decide +kernel
  obtain ⟨drawn, generated⟩ := drawn_keys_taken reg p (.text "local") .null .usual .null d
  obtain ⟨digits, run, _⟩ := drawn d.random 32 (by decide +kernel)
  refine ⟨⟨unattended, enough⟩, ⟨digits, run⟩, (generated [] rfl unattended enough).returns.mpr ⟨?_, ?_⟩⟩
  · decide +kernel
  · decide +kernel

-- Zeros are as good as any other bytes to the random source, and what is left after them is not drawn in their place.
theorem zero_drawn :
    let reg : EbsiRegistrar := ⟨.null, []⟩
    let p : Partners (List Rehearsal.Prepared) := ⟨LedgerSession.scripted, .keyManager, .int 0⟩
    let d : Desk (List Rehearsal.Prepared) :=
      ⟨⟨List.replicate (16 + 32) 0 ++ Sec1.coordinate 1 ++ Sec1.coordinate 1, []⟩, KeyManager.empty, []⟩
    Unattended reg (.text "local") .usual [] ∧ 16 + 32 + 32 ≤ d.random.bytes.length ∧
      (reg.createIdentifier p (.text "local") .null .usual .null d).result = .error (.privateKeyInvalid .secp256k1) := by
  intro reg p d
  have unattended : Unattended reg (.text "local") .usual [] := ⟨rfl, rfl, rfl, rfl, rfl⟩
  have enough : idTaken [] + 64 ≤ d.random.bytes.length := by decide +kernel
  have given : optionsOf .null = .ok [] := rfl
  have generated := create_generated p .null given unattended enough
  exact ⟨unattended, enough, generated.controllerRefused (by decide +kernel)⟩

end EbsiRegistrar
end EbsiDid
