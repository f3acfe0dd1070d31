import Clat.Load
import Clat.Proofs.Files
import Clat.Proofs.Format.Conf
import Clat.Proofs.Format.Stumbles
import Clat.Proofs.Session.Run
import Clat.Proofs.Text.Utf8

/-! Loading a configuration. It returns items or a reported issue about the file, except that
a scalar on which parsing breaks down stops the whole run. -/
namespace Clat.Load

open Clat.Format Clat.Text

/-- A file whose text has a scalar on which parsing breaks down. -/
def Stumbles (files : Files) (file : String) (fault : Format.ScalarFault) : Prop :=
  ∃ content, text files (Path.ofText file) = .ok content ∧
    Format.Stumbles content.toList (Path.ofText file).format fault

theorem configuration_on (files : Files) (file : String) (s : Session) :
    (configuration files file).on s =
      match items files file with
      | .error (.fault fault) => (.error fault, s)
      | .error (.issue issue) => (.ok (.error issue), s.reported issue)
      | .ok items =>
        if items.isEmpty then
          (.ok (.error ⟨.noItems file, file⟩), s.reported ⟨.noItems file, file⟩)
        else (.ok (.ok items), s) := by
  -- The equation lemma of the definition is slow to make, so its body is put in by hand.
  delta configuration
  cases items files file with
  | error failure => cases failure <;> rfl
  | ok found => cases empty : found.isEmpty <;> simp [empty]

/-- Loading items leaves the session as it is. -/
theorem configuration_filled {files : Files} {file : String} {found : Items}
    (loaded : items files file = .ok found) (filled : found.isEmpty = false) (s : Session) :
    (configuration files file).on s = (.ok (.ok found), s) := by
  rw [configuration_on, loaded]
  simp only [filled, Bool.false_eq_true, if_false]

theorem configuration_items {files : Files} {file : String} {found : Items}
    (loaded : items files file = .ok found) (filled : found.isEmpty = false) (s : Session) :
    (configuration files file).ComesTo s (.ok found) s := by
  intro log
  exact ⟨log, configuration_filled loaded filled _⟩

/-- Items of a file stand at the outermost path, whatever the file is called. -/
theorem path_of_items {files : Files} {file : String} {found : Items}
    (loaded : items files file = .ok found) : found.path = "/" := by
  unfold items at loaded
  cases content : text files (Path.ofText file) with
  | error failure =>
    simp only [content, bind, Except.bind] at loaded
    cases loaded
  | ok written =>
    simp only [content, bind, Except.bind] at loaded
    split at loaded
    · cases loaded
      rfl
    · cases loaded
    · cases loaded

/-- Unless a fault stops the run, loading comes to one outcome for its files. -/
theorem configuration_comesTo {files : Files} {file : String}
    (loads : ∀ fault, items files file ≠ .error (.fault fault)) (s : Session) :
    ∃ outcome, (configuration files file).ComesTo s outcome s ∧
      ∀ found, outcome = .ok found → items files file = .ok found := by
  cases loaded : items files file with
  | error failure =>
    cases failure with
    | issue issue =>
      refine ⟨.error issue, fun log => ?_, by simp⟩
      rw [configuration_on, loaded]
      exact ⟨_, rfl⟩
    | fault fault => exact absurd loaded (loads fault)
  | ok found =>
    cases empty : found.isEmpty with
    | true =>
      refine ⟨.error ⟨.noItems file, file⟩, fun log => ?_, by simp⟩
      rw [configuration_on, loaded]
      simp only [empty]
      exact ⟨_, rfl⟩
    | false =>
      refine ⟨.ok found, configuration_items loaded empty s, ?_⟩
      rintro other ⟨⟩
      rfl

theorem configuration_ok {files : Files} {file : String} {found : Items} {s t : Session}
    (ok : (configuration files file).on s = (.ok (.ok found), t)) :
    items files file = .ok found ∧ t = s := by
  rw [configuration_on] at ok
  split at ok
  · cases ok
  · cases ok
  · rename_i loaded
    split at ok
    · cases ok
    · cases ok
      exact ⟨loaded, rfl⟩

/-- Items that are written in the native notation are loaded. -/
theorem items_written {files : Files} {file : String} {lines : List (String × String)}
    (writable : ∀ item ∈ lines, Conf.Writable item) (distinct : (lines.map Prod.fst).Nodup)
    (native : (Path.ofText file).format = .conf)
    (saved : files.read (Path.ofText file) = .ok (encodeUtf8 (Conf.written lines))) :
    items files file = .ok { entries := lines, file := (Path.ofText file).text } := by
  have feeds : '\r' ∉ Conf.written lines := by
    intro member
    rcases Conf.blank_of_mem_written writable member (by decide) with space | feed
    · exact absurd space (by decide)
    · exact absurd feed (by decide)
  have content : text files (Path.ofText file) = .ok (String.ofList (Conf.written lines)) := by
    rw [text, saved]
    simp only [decodeUtf8_encodeUtf8, unifyLineEnds_of_not_mem feeds]
  have parsed : Format.conf.parse (String.ofList (Conf.written lines)) = .ok lines := by
    rw [Format.parse, String.toList_ofList, Conf.parse_written writable distinct]
    rfl
  simp only [items, content, native, parsed, bind, Except.bind]
  rfl

end Clat.Load
