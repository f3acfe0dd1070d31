import Clat.Assembly
import Clat.Proofs.Reader

/-! The stages about the uplink: its name, and its address, which is looked up once. A name that is
no text stops the run. -/
namespace Clat.Assembly

open Clat.Text

/-- The name of the uplink; an empty one where there is no UTF-8 form, and then nothing is looked
up. -/
def Request.name (request : Request) : String := request.interface.text.toOption.getD ""

variable {find : Finder} {name : String} {s t : Session}

/-- What comes of checking a name: it has one to 15 octets. -/
def nameOutcome (name : String) : Except Issue String :=
  if name.utf8ByteSize < 1 then .error ⟨.tooShort name 1, uplinkPath⟩
  else if 15 < name.utf8ByteSize then .error ⟨.tooLong name 15, uplinkPath⟩
  else .ok name

theorem validateName_eq (name : String) :
    Declared.validateName uplinkPath name = (nameOutcome name).mapError .issue := by
  have sized : Declared.validateName uplinkPath name = _ :=
    Declared.checkSize_eq uplinkPath name 1 15
  unfold nameOutcome
  rw [sized]
  by_cases short : name.utf8ByteSize < 1
  · have short' : (name.utf8ByteSize : Int) < 1 := by omega
    rw [if_pos short, if_pos short']
    rfl
  · have enough : ¬ (name.utf8ByteSize : Int) < 1 := by omega
    rw [if_neg short, if_neg enough]
    by_cases long : 15 < name.utf8ByteSize
    · have long' : (15 : Int) < name.utf8ByteSize := by omega
      rw [if_pos long, if_pos long']
      rfl
    · have fits : ¬ (15 : Int) < name.utf8ByteSize := by omega
      rw [if_neg long, if_neg fits]
      rfl

theorem checkInterface_eq (name : String) : checkInterface name = orFail (nameOutcome name) := by
  rw [checkInterface, validateName_eq, orRefuse_mapError]

theorem checkInterface_comesTo (name : String) (s : Session) :
    (checkInterface name).ComesTo s (nameOutcome name) s := by
  rw [checkInterface_eq]
  exact Stage.comesTo_orFail _ s

theorem nameOutcome_ok {name' : String} (ok : nameOutcome name = .ok name') :
    name' = name ∧ 1 ≤ name.utf8ByteSize ∧ name.utf8ByteSize ≤ 15 := by
  unfold nameOutcome at ok
  split at ok
  · cases ok
  · split at ok
    · cases ok
    · cases ok
      refine ⟨rfl, ?_⟩
      omega

/-- A name that passes is the text that was given, and it fits. -/
theorem validateName_ok {loose : LooseText}
    (ok : Declared.validateName uplinkPath loose = .ok name) :
    loose = name ∧ nameOutcome name = .ok name := by
  rcases loose.text_cases with ⟨text, -, rfl⟩ | ⟨error, stop, -⟩
  · rw [validateName_eq] at ok
    cases outcome : nameOutcome text with
    | error issue =>
      rw [outcome] at ok
      cases ok
    | ok name' =>
      rw [outcome] at ok
      cases ok
      obtain ⟨rfl, -⟩ := nameOutcome_ok outcome
      exact ⟨rfl, outcome⟩
  · rw [Declared.validateName_unencodable stop] at ok
    cases ok

theorem checkInterface_ok {loose : LooseText}
    (ok : (checkInterface loose).on s = (.ok (.ok name), t)) :
    (loose = name ∧ nameOutcome name = .ok name) ∧ t = s := by
  obtain ⟨passes, unchanged⟩ := orRefuse_ok ok
  exact ⟨validateName_ok passes, unchanged⟩

/-- A name without a UTF-8 form stops the run, and nothing is reported. -/
theorem checkInterface_unencodable {loose : LooseText} {error : EncodingError}
    (stop : loose.text = .error error) (s : Session) :
    (checkInterface loose).on s = (.error (.unencodable error), s) := by
  rw [checkInterface, Declared.validateName_unencodable stop]
  rfl

theorem Request.name_eq {request : Request} (given : request.interface = name) :
    request.name = name := by
  rw [Request.name, given, LooseText.text_ofString]
  rfl

/-- A name with a UTF-8 form stops nothing. -/
theorem checkInterface_whole {request : Request} (whole : request.interface.Whole) (s : Session) :
    (checkInterface request.interface).ComesTo s (nameOutcome request.name) s := by
  obtain ⟨name, given⟩ := LooseText.whole_iff.1 whole
  rw [Request.name_eq given, given]
  exact checkInterface_comesTo name s

/-- What comes of the address that is found, or of there being none. -/
def addressOutcome (name : String) : Option IPv6 → Except Issue IPv6
  | some address => .ok address
  | none => .error ⟨.noInterfaceAddress name, uplinkPath⟩

theorem uplinkAddress_comesTo {found : Option IPv6} (finds : (find name).result = .ok found)
    (s : Session) :
    (uplinkAddress find name).ComesTo s (addressOutcome name found) (s.did (.lookup name)) := by
  have looked : (liftM (Session.lookUp find name) : Stage (Option IPv6)).ComesTo s (.ok found)
      (s.did (.lookup name)) := by
    apply Stage.comesTo_run
    intro log
    rw [Session.lookUp_on, finds]
    exact ⟨_, rfl⟩
  cases found with
  | some address => exact looked.bind (Stage.comesTo_pure address _)
  | none => exact looked.bind (Stage.comesTo_fail _ _)

theorem uplinkAddress_ok {address : IPv6}
    (ok : (uplinkAddress find name).on s = (.ok (.ok address), t)) :
    (find name).result = .ok (some address) ∧
      ∃ log, t = { s.did (.lookup name) with log := log } := by
  obtain ⟨found, u, looked, -⟩ := Stage.on_bind_ok ok
  have ran := Stage.on_run_ok looked
  rw [Session.lookUp_on] at ran
  have finds : (find name).result = .ok found := congrArg Prod.fst ran
  obtain ⟨given, unchanged⟩ := (uplinkAddress_comesTo finds s).of_ok ok
  cases found with
  | some other =>
    cases given
    exact ⟨finds, unchanged⟩
  | none => cases given

end Clat.Assembly
