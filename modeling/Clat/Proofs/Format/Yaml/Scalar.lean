import Clat.Format.Yaml.Read
import Clat.Proofs.Format.Yaml.Moment
import Clat.Proofs.Number.FloatRead

/-! What scalars make. The text of a node either makes a value of the type that its tag declares, or
does not fit the tag. -/
namespace Clat.Format.Yaml

open Clat.Number

variable {nodes : Array Node} {node : Node}

/-- A node whose text does not denote a value of the type that its tag declares. -/
inductive Misfit (nodes : Array Node) (node : Node) : ScalarFault → Prop where
  | integer (text : String) (fault : ScalarFault) (tag : node.tag = coreTag "int")
      (written : scalarText nodes node (nodes.size + 1) = .ok text)
      (stop : makeInteger text.toList = .error fault) : Misfit nodes node fault
  | float (text : String) (fault : ScalarFault) (tag : node.tag = coreTag "float")
      (written : scalarText nodes node (nodes.size + 1) = .ok text)
      (stop : makeFloat text.toList = .error fault) : Misfit nodes node fault
  | truth (text : String) (fault : ScalarFault) (tag : node.tag = coreTag "bool")
      (written : scalarText nodes node (nodes.size + 1) = .ok text)
      (stop : makeTruth text.toList = .error fault) : Misfit nodes node fault
  | moment (text : String) (fault : ScalarFault) (tag : node.tag = coreTag "timestamp")
      (written : node.content = .scalar text)
      (stop : makeMoment text.toList = .error fault) : Misfit nodes node fault
  /-- A date is asked of a mapping that has a text under its value key. -/
  | noText (text : String) (tag : node.tag = coreTag "timestamp")
      (written : scalarText nodes node (nodes.size + 1) = .ok text)
      (other : ∀ plain, node.content ≠ .scalar plain) : Misfit nodes node .dateOfNoText

/-- The values that scalars make. -/
inductive Scalar : Value → Prop where
  | null : Scalar .null
  | truth (value : Bool) : Scalar (.truth value)
  | integer (value : Int) : Scalar (.integer value)
  | float (value : Binary64) (proper : value.Proper) : Scalar (.float value)
  | notANumber : Scalar .notANumber
  | text (value : String) : Scalar (.text value)
  | octets (value : List UInt8) : Scalar (.octets value)
  | moment {value : Value} (moment : Moment value) : Scalar value

theorem Scalar.ne_collection {value : Value} (scalar : Scalar value) (kind : Collection) :
    value ≠ .collection kind := by
  cases scalar with
  | moment moment => cases moment <;> simp
  | _ => simp

theorem proper_sumSixty {weight : Nat} {total value : Binary64} {parts : List Binary64}
    (proper : total.Proper) (sum : sumSixty weight total parts = .ok value) : value.Proper := by
  induction parts generalizing weight total with
  | nil =>
    cases sum
    exact proper
  | cons part rest ih =>
    rw [sumSixty] at sum
    split at sum
    · exact ih (Binary64.proper_add _ _) sum
    · cases sum

theorem proper_readFloat {text : List Char} {value : Binary64}
    (read : readFloat text = .ok value) : value.Proper := by
  unfold readFloat at read
  split at read
  · rename_i found
    cases read
    exact Binary64.proper_ofText? found
  · cases read

theorem makeFloat_ok {source : List Char} {value : Value} (made : makeFloat source = .ok value) :
    Scalar value := by
  unfold makeFloat at made
  cases signed : takeNumberSign (Text.lower (dropUnderscores source)) with
  | error fault =>
    rw [signed] at made
    cases made
  | ok parts =>
    obtain ⟨negative, body⟩ := parts
    have float {value : Binary64} (proper : value.Proper) :
        Scalar (.float (if negative then value.neg else value)) := by
      cases negative with
      | true => exact .float _ (Binary64.proper_neg proper)
      | false => exact .float _ proper
    rw [signed] at made
    simp only [bind, Except.bind] at made
    by_cases infinite : body = ".inf".toList
    · rw [if_pos infinite] at made
      cases made
      exact float trivial
    rw [if_neg infinite] at made
    by_cases none : body = ".nan".toList
    · rw [if_pos none] at made
      cases made
      exact .notANumber
    rw [if_neg none] at made
    by_cases sixty : body.contains ':' = true
    · rw [if_pos sixty] at made
      split at made
      · cases made
      · split at made
        · cases made
        · rename_i sum
          cases made
          exact float (proper_sumSixty (Binary64.proper_ofNat 0) sum)
    · rw [if_neg sixty] at made
      split at made
      · cases made
      · rename_i read
        cases made
        exact float (proper_readFloat read)

theorem scalarText_not_fault {fuel : Nat} {fault : ScalarFault} :
    scalarText nodes node fuel ≠ .error (.fault fault) := by
  fun_induction scalarText nodes node fuel with
  | case1 | case2 => simp
  | case3 node _ wrong | case4 node _ wrong | case5 node _ wrong => simp [wrong]
  | case6 node fuel _ _ _ _ _ _ _ ih => exact ih

/-- What making a scalar comes to: a value that scalars make, or a misfit; where the tag is none of
a scalar, or there is no text, nothing is said. -/
def Suits (nodes : Array Node) (node : Node) : Except Stop (Option Value) → Prop
  | .ok (some value) => Scalar value
  | .error (.fault fault) => Misfit nodes node fault
  | _ => True

theorem suits_text {use : List Char → Except Stop (Option Value)}
    (each : ∀ text, scalarText nodes node (nodes.size + 1) = .ok text →
      Suits nodes node (use text.toList)) :
    Suits nodes node
      (do use (← String.toList <$> scalarText nodes node (nodes.size + 1))) := by
  cases written : scalarText nodes node (nodes.size + 1) with
  | ok text => exact each text written
  | error stop =>
    cases stop with
    | fault fault => exact absurd written scalarText_not_fault
    | refused | trouble | repeatedKey => trivial

theorem suits_plainly {α : Type} {result : Except ScalarFault α} {use : α → Value}
    (value : ∀ made, result = .ok made → Scalar (use made))
    (stop : ∀ fault, result = .error fault → Misfit nodes node fault) :
    Suits nodes node (do return some (use (← result.mapError Stop.fault))) := by
  cases result with
  | ok made => exact value made rfl
  | error fault => exact stop fault rfl

theorem makeScalar_suits (nodes : Array Node) (node : Node) :
    Suits nodes node (makeScalar nodes node) := by
  unfold makeScalar
  by_cases string : node.tag = coreTag "str"
  · rw [if_pos string]
    exact suits_text fun text _ => .text _
  rw [if_neg string]
  by_cases null : node.tag = coreTag "null"
  · rw [if_pos null]
    exact suits_text fun text _ => .null
  rw [if_neg null]
  by_cases truth : node.tag = coreTag "bool"
  · rw [if_pos truth]
    exact suits_text fun text written =>
      suits_plainly (fun value _ => .truth value) fun fault stop =>
        .truth text fault truth written stop
  rw [if_neg truth]
  by_cases integer : node.tag = coreTag "int"
  · rw [if_pos integer]
    exact suits_text fun text written =>
      suits_plainly (fun value _ => .integer value) fun fault stop =>
        .integer text fault integer written stop
  rw [if_neg integer]
  by_cases float : node.tag = coreTag "float"
  · rw [if_pos float]
    exact suits_text fun text written =>
      suits_plainly (fun value made => makeFloat_ok made) fun fault stop =>
        .float text fault float written stop
  rw [if_neg float]
  by_cases binary : node.tag = coreTag "binary"
  · rw [if_pos binary]
    refine suits_text fun text _ => ?_
    cases makeOctets text.toList with
    | ok octets => exact .octets octets
    | error problem => trivial
  rw [if_neg binary]
  by_cases moment : node.tag = coreTag "timestamp"
  · rw [if_pos moment]
    refine suits_text fun text written => ?_
    cases content : node.content with
    | scalar plain =>
      rw [scalarText] at written
      simp only [content] at written
      cases written
      exact suits_plainly (fun value made => .moment (makeMoment_ok made)) fun fault stop =>
        .moment text fault moment content stop
    | sequence items => exact .noText text moment written (by simp [content])
    | mapping entries => exact .noText text moment written (by simp [content])
  rw [if_neg moment]
  trivial

/-- Making a scalar breaks down only at a misfit. -/
theorem makeScalar_fault {fault : ScalarFault}
    (stop : makeScalar nodes node = .error (.fault fault)) : Misfit nodes node fault := by
  have suits := makeScalar_suits nodes node
  rwa [stop] at suits

theorem makeScalar_ok {value : Value} (made : makeScalar nodes node = .ok (some value)) :
    Scalar value := by
  have suits := makeScalar_suits nodes node
  rwa [made] at suits

end Clat.Format.Yaml
