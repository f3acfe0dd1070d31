import Clat.Proofs.Format.Yaml.Make
import Clat.Proofs.Format.Yaml.Word

/-! Documents of one line. An entry whose key is a name and whose value is a word is scanned to one
key and one plain scalar, composed to a mapping of one entry, and read; the form of the scalar
decides what its value is. A word that ends in a colon is taken for another key, and the document is
refused. -/
namespace Clat.Format.Yaml

namespace Scanner

variable {s t : Scanner} {c : Char} {passed rest : List Char}

/-- Where a line goes on, only its blanks and its remark are passed. -/
theorem toNextToken_of {mark : Mark} (first : s.mark.peek ≠ some '\ufeff')
    (skips : skipComment s.mark = mark) (goesOn : lineBreak mark = ([], mark)) :
    s.toNextToken = { s with mark } := by
  unfold toNextToken
  simp only [first, decide_false, Bool.and_false, Bool.false_eq_true, if_false]
  unfold skipBetween
  simp only [skips, goesOn]

theorem toNextToken_solid (place : s.mark = .inLine passed (c :: rest)) (solid : Solid c) :
    s.toNextToken = s := by
  apply toNextToken_of
  · simpa [place, Mark.peek, Mark.inLine] using solid.inline.2
  · rw [place, skipComment_solid solid]
  · rw [place, lineBreak_inline solid.inline]

theorem toNextToken_space (place : s.mark = .inLine passed (' ' :: c :: rest)) (solid : Solid c) :
    s.toNextToken = { s with mark := .inLine (passed ++ [' ']) (c :: rest) } := by
  apply toNextToken_of
  · simp [place, Mark.peek, Mark.inLine]
  · rw [place, skipComment_space solid]
  · exact lineBreak_inline solid.inline

theorem toNextToken_end (ahead : s.mark.ahead = []) : s.toNextToken = s := by
  apply toNextToken_of
  · simp [Mark.peek, ahead]
  · exact skipComment_end ahead
  · exact lineBreak_end ahead

/-- Nothing is closed at a column that is not before the block's. -/
theorem closeBlocks_of_le {column : Int} (inside : s.indent ≤ column) :
    s.closeBlocks column = s := by
  unfold closeBlocks
  split_ifs with outermost
  · cases depth : s.outer.length with
    | zero => rfl
    | succ fuel => rw [closeBlocksFrom, if_neg (by omega)]
  · rfl

/-- A word is scanned as a plain scalar. Its first character may be a colon, if that is no key's. -/
theorem fetchAt_word (word : c ∈ wordChars) (outside : s.depth = 0)
    (here : s.mark.ahead = c :: rest) (start : s.mark.column = 0 → c ∈ nameChars)
    (goesOn : c = ':' → endsToken rest.head? = false) : s.fetchAt c = s.fetchPlain := by
  have colon : c = ':' → endsToken (s.mark.peekAt 1) = false := by
    rw [Mark.peekAt, here, List.getElem?_cons_succ, ← List.head?_eq_getElem?]
    exact goesOn
  have all : wordChars.all (fun c =>
      !"%[]\x7b\x7d,-?*&!|>'\" \t".toList.contains c && !isBreak c && (c == ':' || !isIndicator c))
        = true := by
    decide
  have kind := List.all_eq_true.1 all c word
  simp only [Bool.and_eq_true, Bool.or_eq_true, Bool.not_eq_true', beq_iff_eq] at kind
  obtain ⟨⟨marks, inline⟩, indicator⟩ := kind
  have separator : (decide (s.mark.column = 0) && atSeparator s.mark) = false := by
    by_cases first : s.mark.column = 0
    · have name := start first
      have all : nameChars.all (fun c => c != '-' && c != '.') = true := by decide
      have other := List.all_eq_true.1 all c name
      simp only [Bool.and_eq_true, bne_iff_ne] at other
      simp [atSeparator, Mark.startsWith, here, Ne.symm other.1, Ne.symm other.2]
    · rw [decide_eq_false first, Bool.false_and]
  have value : (decide (c = ':') && (decide (s.depth ≠ 0) || endsToken (s.mark.peekAt 1)))
      = false := by
    by_cases is : c = ':'
    · simp [colon is, outside]
    · simp [is]
  have plain : s.startsPlain c = true := by
    unfold startsPlain
    rcases indicator with rfl | indicator
    · simp [colon rfl, outside]
    · simp_all
  simp at marks
  unfold fetchAt
  simp only [marks, separator, value, plain]
  simp

/-- Fetching in a line, where no pending key is too far away and no block ends. -/
theorem fetch_of (next : s.toNextToken.dropStale = .ok t) (inside : t.indent ≤ t.mark.column)
    (here : t.mark.ahead = c :: rest) : s.fetch = t.fetchAt c := by
  have peek : t.mark.peek = some c := by rw [Mark.peek, here, List.head?_cons]
  unfold fetch
  rw [next]
  simp only [bind, Except.bind, closeBlocks_of_le inside, peek]

theorem dropStale_of_nil (none : s.pending = []) : s.dropStale = .ok s := by
  unfold dropStale
  cases s
  cases none
  rfl

/-- A key on the same line that is near enough stays pending. -/
theorem dropStale_of_near {number : Nat} {key : PendingKey} (one : s.pending = [(number, key)])
    (line : key.place.line = s.mark.line) (near : s.mark.index - key.place.index ≤ keyReach) :
    s.dropStale = .ok s := by
  have fresh : isStale s.mark key = false := by
    simp [isStale, line]
    omega
  unfold dropStale
  cases s
  cases one
  simp [fresh]

theorem fetchPlain_of {token : Token} {mark : Mark} {feeds : Bool} (offered : s.offerKey = .ok t)
    (scanned : scanPlain (decide (t.depth ≠ 0)) t.indent t.mark = (token, mark, feeds)) :
    s.fetchPlain = .ok { t.push token with mark, keyAllowed := feeds } := by
  unfold fetchPlain
  rw [offered]
  simp only [bind, Except.bind, scanned]
  rfl

/-- A colon before a blank is that of a key. -/
theorem fetchAt_colon (here : s.mark.ahead = ':' :: rest) (ends : endsToken rest.head? = true) :
    s.fetchAt ':' = s.fetchValue := by
  have separator : atSeparator s.mark = false := by
    simp [atSeparator, Mark.startsWith, here]
  have spaced : endsToken (s.mark.peekAt 1) = true := by
    rw [Mark.peekAt, here, List.getElem?_cons_succ, ← List.head?_eq_getElem?, ends]
  unfold fetchAt
  simp only [separator, spaced]
  simp

section Line

variable {key value ending : List Char}

/-- The scanner after the key of a line. -/
def afterKey (key rest : List Char) : Scanner where
  mark := .inLine key rest
  keyAllowed := false
  pending := [(0, ⟨0, false, .inLine [] (key ++ rest)⟩)]
  tokens := #[⟨.scalar (String.ofList key) true, .inLine [] (key ++ rest), .inLine key rest⟩]

/-- The scanner after the colon of a line. The tokens of a key are put in front of its name, and a
block is open. -/
def afterColon (key rest : List Char) : Scanner where
  mark := .inLine (key ++ [':']) rest
  indent := 0
  outer := [-1]
  keyAllowed := false
  tokens :=
    let start : Mark := .inLine [] (key ++ ':' :: rest)
    let stop : Mark := .inLine key (':' :: rest)
    #[⟨.blockMappingStart, start, start⟩, ⟨.key, start, start⟩,
      ⟨.scalar (String.ofList key) true, start, stop⟩,
      ⟨.value, stop, .inLine (key ++ [':']) rest⟩]

/-- The scanner after a run of words as the value of a line. -/
def afterItem (key run rest : List Char) : Scanner :=
  let before : Mark := .inLine (key ++ [':', ' ']) (run ++ rest)
  let stop : Mark := .inLine (key ++ [':', ' '] ++ run) rest
  let colon := afterColon key (' ' :: (run ++ rest))
  { colon with
    mark := (scanGap stop).next
    keyAllowed := (scanGap stop).feeds
    tokens := colon.tokens.push ⟨.scalar (String.ofList run) true, before, stop⟩ }

theorem fetch_key (isName : IsName key) (rest : List Char) :
    fetch { mark := .inLine [] (key ++ ':' :: ' ' :: rest) }
      = .ok (afterKey key (':' :: ' ' :: rest)) := by
  have whole : plainRun false (key ++ ':' :: ' ' :: rest) = key := by
    rw [plainRun_append isName.word, plainRun_colon rfl, List.append_nil]
    intro last
    exact absurd (isName.name _ (List.mem_of_getLast? last)) marks_not_name.1
  have gap : scanGap (.inLine key (':' :: ' ' :: rest))
      = ⟨[], false, .inLine key (':' :: ' ' :: rest)⟩ :=
    scanGap_inline (by decide)
  have scanned := scanPlain_run isName.filled isName.word whole [] (-1)
    (.inl (by rw [List.nil_append, gap]))
  rw [List.nil_append, gap] at scanned
  obtain ⟨first, others, rfl⟩ := List.exists_cons_of_ne_nil isName.filled
  have name := isName.name first List.mem_cons_self
  have word := word_of_name name
  have next : (toNextToken { mark := .inLine [] (first :: others ++ ':' :: ' ' :: rest) }).dropStale
      = .ok { mark := .inLine [] (first :: others ++ ':' :: ' ' :: rest) } := by
    rw [toNextToken_solid rfl (solid_of_word word)]
    exact dropStale_of_nil rfl
  rw [fetch_of next (show (-1 : Int) ≤ 0 by decide) rfl,
    fetchAt_word word rfl rfl (fun _ => name) fun is => absurd (is ▸ name) marks_not_name.1]
  have offered : offerKey { mark := .inLine [] (first :: others ++ ':' :: ' ' :: rest) } = .ok {
      mark := .inLine [] (first :: others ++ ':' :: ' ' :: rest)
      pending := [(0, ⟨0, false, .inLine [] (first :: others ++ ':' :: ' ' :: rest)⟩)] } := rfl
  exact fetchPlain_of offered scanned

theorem fetch_colon (isName : IsName key) (rest : List Char) :
    (afterKey key (':' :: ' ' :: rest)).fetch = .ok (afterColon key (' ' :: rest)) := by
  have next : (afterKey key (':' :: ' ' :: rest)).toNextToken.dropStale
      = .ok (afterKey key (':' :: ' ' :: rest)) := by
    rw [toNextToken_solid rfl (by decide)]
    exact dropStale_of_near rfl rfl isName.short
  have inside : (-1 : Int) ≤ (afterKey key (':' :: ' ' :: rest)).mark.column := by omega
  rw [fetch_of next inside rfl, fetchAt_colon rfl rfl]
  have step : (Mark.inLine key (':' :: ' ' :: rest)).advance 1
      = .inLine (key ++ [':']) (' ' :: rest) := Mark.step_inLine inline_colon
  unfold fetchValue
  rw [afterKey]
  simp [current?, forget, insert, openBlock, pushMark, push, step]
  rfl

theorem fetch_item {run rest : List Char} (filled : run ≠ []) (word : ∀ c ∈ run, c ∈ wordChars)
    (whole : plainRun false (run ++ rest) = run)
    (ends : let gap := scanGap (.inLine (key ++ [':', ' '] ++ run) rest)
      gap.text = [] ∨ gap.next.column = 0) :
    (afterColon key (' ' :: (run ++ rest))).fetch = .ok (afterItem key run rest) := by
  have scanned := scanPlain_run filled word whole (key ++ [':', ' ']) 0
    (ends.imp_right fun first => by rw [first]; decide)
  obtain ⟨first, others, rfl⟩ := List.exists_cons_of_ne_nil filled
  have word := word first List.mem_cons_self
  have goesOn : first = ':' → endsToken (others ++ rest).head? = false := by
    rintro rfl
    by_contra ends
    rw [List.cons_append, plainRun_colon (eq_true_of_ne_false ends)] at whole
    cases whole
  let before : Scanner := { afterColon key (' ' :: (first :: others ++ rest)) with
    mark := .inLine (key ++ [':', ' ']) (first :: others ++ rest) }
  have skipped : (afterColon key (' ' :: (first :: others ++ rest))).toNextToken = before := by
    rw [toNextToken_space rfl (solid_of_word word), List.append_assoc]
    rfl
  have next : (afterColon key (' ' :: (first :: others ++ rest))).toNextToken.dropStale
      = .ok before := by
    rw [skipped]
    exact dropStale_of_nil rfl
  have inside : (0 : Int) ≤ (before.mark.column : Int) := by omega
  have further : before.mark.column = 0 → first ∈ nameChars := by
    intro start
    rw [Mark.column_inLine, List.length_append] at start
    cases start
  rw [fetch_of next inside rfl, fetchAt_word word rfl rfl further goesOn]
  have offered : before.offerKey = .ok before := rfl
  exact fetchPlain_of offered scanned

/-- The scanner after the last line of a block that starts its lines. -/
def ended (mark : Mark) (tokens : Array Token) : Scanner where
  mark
  keyAllowed := false
  tokens := (tokens.push ⟨.blockEnd, mark, mark⟩).push ⟨.streamEnd, mark, mark⟩
  finished := true

/-- The end of a text ends the block that was opened at the start of its lines. -/
theorem fetch_end {run rest : List Char} (gap : Gap)
    (after : scanGap (.inLine (key ++ [':', ' '] ++ run) rest) = gap)
    (ahead : gap.next.ahead = []) :
    (afterItem key run rest).fetch = .ok (ended gap.next (afterItem key run rest).tokens) := by
  have place : (afterItem key run rest).mark = gap.next := by rw [afterItem, after]
  have next : (afterItem key run rest).toNextToken.dropStale = .ok (afterItem key run rest) := by
    rw [toNextToken_end (place ▸ ahead)]
    exact dropStale_of_nil rfl
  have inside : (afterItem key run rest).indent ≤ (afterItem key run rest).mark.column :=
    Int.natCast_nonneg _
  have none : (afterItem key run rest).mark.peek = none := by
    rw [Mark.peek, place, ahead, List.head?_nil]
  unfold fetch
  rw [next]
  simp only [bind, Except.bind, closeBlocks_of_le inside, none]
  rw [← place]
  rfl

/-- A second colon in a line makes no key. -/
theorem fetch_second {run rest : List Char} (ends : endsToken rest.head? = true) :
    (afterItem key run (':' :: rest)).fetch = .error .refused := by
  have gap : scanGap (.inLine (key ++ [':', ' '] ++ run) (':' :: rest))
      = ⟨[], false, .inLine (key ++ [':', ' '] ++ run) (':' :: rest)⟩ :=
    scanGap_inline (by decide)
  have place : (afterItem key run (':' :: rest)).mark
      = .inLine (key ++ [':', ' '] ++ run) (':' :: rest) := by rw [afterItem, gap]
  have stays : (afterItem key run (':' :: rest)).keyAllowed = false := by rw [afterItem, gap]
  have next : (afterItem key run (':' :: rest)).toNextToken.dropStale
      = .ok (afterItem key run (':' :: rest)) := by
    rw [toNextToken_solid place (by decide)]
    exact dropStale_of_nil rfl
  have inside : (afterItem key run (':' :: rest)).indent
      ≤ (afterItem key run (':' :: rest)).mark.column := Int.natCast_nonneg _
  rw [fetch_of next inside (congrArg Mark.ahead place),
    fetchAt_colon (congrArg Mark.ahead place) ends]
  have alone : (afterItem key run (':' :: rest)).current? = none := rfl
  have outside : (afterItem key run (':' :: rest)).depth = 0 := rfl
  unfold fetchValue startBlock
  simp only [alone, outside, stays]
  rfl

end Line

end Scanner

section Scan

variable {s t : Scanner} {fuel : Nat}

theorem scanFrom_step (fresh : s.dropStale = .ok s) (next : s.fetch = .ok t)
    (goesOn : t.finished = false) : scanFrom (fuel + 1) s = scanFrom fuel t := by
  rw [scanFrom, fresh]
  simp only [next, goesOn, Bool.false_eq_true, if_false]

theorem scanFrom_finish (fresh : s.dropStale = .ok s) (next : s.fetch = .ok t)
    (finished : t.finished = true) : scanFrom (fuel + 1) s = ⟨t.tokens.toList, none⟩ := by
  rw [scanFrom, fresh]
  simp only [next, finished, if_true]

theorem scanFrom_halt_of {stop : Stop} (fresh : s.dropStale = .ok s) (next : s.fetch = .error stop)
    (settled : s.pending = []) : scanFrom (fuel + 1) s = ⟨s.tokens.toList, some stop⟩ := by
  have all : s.settled = s.tokens.toList.length := by rw [Scanner.settled, settled]; rfl
  rw [scanFrom, fresh]
  simp only [next, all, List.take_length]

variable {key value ending : List Char}

open Scanner

/-- A line with a key and a value. -/
def lineOf (key value : List Char) : List Char := key ++ ':' :: ' ' :: value

theorem isAllowed_line (isName : IsName key) (rest : List Char) :
    (lineOf key rest).all isAllowed = rest.all isAllowed := by
  have marks : isAllowed ':' = true ∧ isAllowed ' ' = true := by decide
  have keys : key.all isAllowed = true :=
    List.all_eq_true.2 fun c member => isAllowed_of_word (isName.word c member)
  simp only [lineOf, List.all_append, List.all_cons, marks, keys, Bool.true_and]

/-- Scanning a line comes to the end of the first run of words in its value. -/
theorem scan_item {run rest : List Char} (isName : IsName key) (filled : run ≠ [])
    (word : ∀ c ∈ run, c ∈ wordChars) (whole : plainRun false (run ++ rest) = run)
    (allowed : rest.all isAllowed = true)
    (ends : let gap := scanGap (.inLine (key ++ [':', ' '] ++ run) rest)
      gap.text = [] ∨ gap.next.column = 0) :
    ∃ fuel, scan (lineOf key (run ++ rest)) = scanFrom (fuel + 1) (afterItem key run rest) := by
  have inside : (lineOf key (run ++ rest)).all isAllowed = true := by
    rw [isAllowed_line isName, List.all_append, allowed, Bool.and_true, List.all_eq_true]
    exact fun c member => isAllowed_of_word (word c member)
  obtain ⟨fuel, enough⟩ : ∃ fuel, (lineOf key (run ++ rest)).length + 2 = fuel + 1 + 3 := by
    refine ⟨(lineOf key (run ++ rest)).length - 2, ?_⟩
    rw [lineOf, List.length_append, List.length_cons, List.length_cons]
    omega
  refine ⟨fuel, ?_⟩
  -- The key, its colon and the run are fetched one after another.
  have near : (afterKey key (':' :: ' ' :: (run ++ rest))).dropStale
      = .ok (afterKey key (':' :: ' ' :: (run ++ rest))) := dropStale_of_near rfl rfl isName.short
  rw [scan, if_pos inside, enough, Mark.ofText_eq, lineOf,
    scanFrom_step (dropStale_of_nil rfl) (fetch_key isName (run ++ rest)) rfl,
    scanFrom_step near (fetch_colon isName (run ++ rest)) rfl,
    scanFrom_step (dropStale_of_nil rfl) (fetch_item filled word whole ends) rfl]

/-- The tokens of a line up to its value. -/
def lineKinds (key value : List Char) : List Token.Kind :=
  [.blockMappingStart, .key, .scalar (String.ofList key) true, .value,
    .scalar (String.ofList value) true]

/-- A line whose value does not end in a colon is a mapping of one key. -/
theorem scan_line (isName : IsName key) (filled : value ≠ []) (word : ∀ c ∈ value, c ∈ wordChars)
    (stays : value.getLast? ≠ some ':') (isEnding : IsEnding ending) :
    (scan (lineOf key (value ++ ending))).tokens.map Token.kind
      = lineKinds key value ++ [.blockEnd, .streamEnd] := by
  have whole : plainRun false (value ++ ending) = value := by
    rw [plainRun_append word fun last => absurd last stays]
    rcases isEnding with rfl | rfl
    · exact List.append_nil value
    · exact List.append_nil value
  have allowed : ending.all isAllowed = true := by rcases isEnding with rfl | rfl <;> decide
  obtain ⟨ends, ahead⟩ := scanGap_ending isEnding (key ++ [':', ' '] ++ value)
  obtain ⟨fuel, scanned⟩ := scan_item isName filled word whole allowed ends
  rw [scanned, scanFrom_finish (dropStale_of_nil rfl) (fetch_end _ rfl ahead) rfl]
  rfl

/-- A word that ends in a colon is no value: the colon would be that of a second key. -/
theorem scan_second (isName : IsName key) (filled : value ≠ []) (word : ∀ c ∈ value, c ∈ wordChars)
    (isEnding : IsEnding ending) :
    (scan (lineOf key (value ++ ':' :: ending))).tokens.map Token.kind = lineKinds key value ∧
      (scan (lineOf key (value ++ ':' :: ending))).halt = some .refused := by
  have ends : endsToken ending.head? = true := by rcases isEnding with rfl | rfl <;> rfl
  have whole : plainRun false (value ++ ':' :: ending) = value := by
    rw [plainRun_append word fun _ => rfl, plainRun_colon ends, List.append_nil]
  have allowed : (':' :: ending).all isAllowed = true := by
    rcases isEnding with rfl | rfl <;> decide
  have gap : (scanGap (.inLine (key ++ [':', ' '] ++ value) (':' :: ending))).text = [] := by
    rw [scanGap_inline (by decide)]
  obtain ⟨fuel, scanned⟩ := scan_item isName filled word whole allowed (.inl gap)
  rw [scanned, scanFrom_halt_of (dropStale_of_nil rfl) (fetch_second ends) rfl]
  exact ⟨rfl, rfl⟩

end Scan

section Document

variable {key value ending : List Char} {tokens : List Token}

/-- The nodes of a mapping of one plain key to one plain value. -/
def lineNodes (key value : String) (start keyStart valueStart : Mark) : Array Node :=
  #[⟨coreTag "map", start, .mapping [(1, 2)]⟩,
    ⟨resolvePlain key.toList, keyStart, .scalar key⟩,
    ⟨resolvePlain value.toList, valueStart, .scalar value⟩]

theorem document_line
    (kinds : tokens.map Token.kind = lineKinds key value ++ [.blockEnd, .streamEnd]) :
    ∃ start keyStart valueStart composer,
      composer.nodes
          = lineNodes (String.ofList key) (String.ofList value) start keyStart valueStart ∧
        (Compose.document 24).run { tokens } = .ok (some 0, composer) := by
  simp only [lineKinds, List.cons_append, List.nil_append, List.map_eq_cons_iff,
    List.map_eq_nil_iff] at kinds
  obtain ⟨⟨_, start, _⟩, _, rfl, rfl, ⟨_, _, _⟩, _, rfl, rfl, ⟨_, keyStart, _⟩, _, rfl, rfl,
    ⟨_, _, _⟩, _, rfl, rfl, ⟨_, valueStart, _⟩, _, rfl, rfl, ⟨_, _, _⟩, _, rfl, rfl,
    ⟨_, last, stop⟩, _, rfl, rfl, rfl⟩ := kinds
  refine ⟨start, keyStart, valueStart, {
    tokens := [⟨.streamEnd, last, stop⟩]
    nodes := lineNodes (String.ofList key) (String.ofList value) start keyStart valueStart
    handles := Compose.defaultHandles }, rfl, ?_⟩
  rfl

theorem document_second (kinds : tokens.map Token.kind = lineKinds key value) :
    (Compose.document 18).run { tokens } = .error none := by
  simp only [lineKinds, List.map_eq_cons_iff, List.map_eq_nil_iff] at kinds
  obtain ⟨⟨_, start, _⟩, _, rfl, rfl, ⟨_, _, _⟩, _, rfl, rfl, ⟨_, keyStart, _⟩, _, rfl, rfl,
    ⟨_, _, _⟩, _, rfl, rfl, ⟨_, _, _⟩, _, rfl, rfl, rfl⟩ := kinds
  rfl

theorem makeScalar_str (nodes : Array Node) (start : Mark) (text : String) :
    makeScalar nodes ⟨coreTag "str", start, .scalar text⟩ = .ok (some (.text text)) := by
  rw [makeScalar, if_pos rfl, scalarText]
  simp

theorem makeScalar_int {nodes : Array Node} {start : Mark} {text : String} {value : Int}
    (made : makeInteger text.toList = .ok value) :
    makeScalar nodes ⟨coreTag "int", start, .scalar text⟩ = .ok (some (.integer value)) := by
  have tags : coreTag "int" ≠ coreTag "str" ∧ coreTag "int" ≠ coreTag "null" ∧
      coreTag "int" ≠ coreTag "bool" := by decide
  obtain ⟨str, null, bool⟩ := tags
  rw [makeScalar, if_neg str, if_neg null, if_neg bool, if_pos rfl, scalarText]
  simp only [bind, Except.bind, Functor.map, Except.map, made, Except.mapError]
  rfl

/-- A line is read as one entry, if its key is a text. -/
theorem make_line {key value : String} {made : Value} (start keyStart valueStart : Mark)
    (string : resolvePlain key.toList = coreTag "str")
    (scalar : collectionOf? (resolvePlain value.toList) = none)
    (means : makeScalar (lineNodes key value start keyStart valueStart)
      ⟨resolvePlain value.toList, valueStart, .scalar value⟩ = .ok (some made)) :
    ∃ workshop, (Make.document 0).run { nodes := lineNodes key value start keyStart valueStart }
      = .ok ((.collection .mapping, [(.text key, made)]), workshop) := by
  obtain ⟨nodes, same⟩ : ∃ nodes, nodes = lineNodes key value start keyStart valueStart := ⟨_, rfl⟩
  have root : nodes[0]? = some ⟨coreTag "map", start, .mapping [(1, 2)]⟩ := by rw [same]; rfl
  have first : nodes[1]? = some ⟨coreTag "str", keyStart, .scalar key⟩ := by
    rw [same, ← string]
    rfl
  have second : nodes[2]? = some ⟨resolvePlain value.toList, valueStart, .scalar value⟩ := by
    rw [same]
    rfl
  rw [← same] at means ⊢
  have asked : collectionOf? (coreTag "map") = some (.mapping, .mapping) := rfl
  have plain : collectionOf? (coreTag "str") = none := by decide
  rw [Make.document_collection root asked]
  let one : Workshop := { nodes, values := [(0, .collection .mapping)] }
  let two : Workshop := { nodes, values := [(1, .text key), (0, .collection .mapping)] }
  let three : Workshop := {
    nodes
    values := [(2, made), (1, .text key), (0, .collection .mapping)] }
  have keyed : (Make.value 1).run one = .ok (.text key, two) :=
    Make.value_scalar first rfl plain (makeScalar_str nodes keyStart key)
  have valued : (Make.value 2).run two = .ok (made, three) :=
    Make.value_scalar second rfl scalar means
  have filled : (Make.entries start [] [(1, 2)]).run one = .ok ([(.text key, made)], three) := by
    have passes : (Make.checkKey start keyStart (.text key)).run two = .ok ((), two) := rfl
    rw [Make.entries, Make.run_bind_ok (Make.run_node first), Make.run_bind_ok keyed,
      Make.run_bind_ok passes, if_neg (by simp), Make.run_bind_ok valued]
    rfl
  have done : (Make.fill 0 .mapping).run one = .ok ([(.text key, made)], three) := by
    rw [Make.fill, Make.run_bind_ok (Make.run_node root)]
    exact filled
  refine ⟨three, ?_⟩
  have finished : (Make.fillWaiting three.nodes.size).run three = .ok ((), three) :=
    Make.fillWaiting_nil rfl _
  have asks : (get : Make Workshop).run three = .ok (three, three) := rfl
  rw [Make.outermost, Make.run_bind_ok done, Make.run_bind_ok asks, Make.run_bind_ok finished]
  rfl

end Document

section Read

variable {key value : String} {ending : List Char}

/-- A key and a value that stand on a line as words; the key has the form of no other type. -/
structure IsEntry (key value : String) : Prop where
  name : IsName key.toList
  string : resolvePlain key.toList = coreTag "str"
  filled : value.toList ≠ []
  word : ∀ c ∈ value.toList, c ∈ wordChars

/-- A line whose value does not end in a colon is read as one entry. -/
theorem read_line {made : Value} (entry : IsEntry key value)
    (stays : value.toList.getLast? ≠ some ':') (isEnding : IsEnding ending)
    (scalar : collectionOf? (resolvePlain value.toList) = none)
    (means : ∀ nodes start, makeScalar nodes ⟨resolvePlain value.toList, start, .scalar value⟩
      = .ok (some made)) :
    read (lineOf key.toList (value.toList ++ ending))
      = .ok (.collection .mapping, [(.text key, made)]) := by
  have kinds := scan_line entry.name entry.filled entry.word stays isEnding
  have seven : (scan (lineOf key.toList (value.toList ++ ending))).tokens.length = 7 := by
    rw [← List.length_map Token.kind, kinds]
    rfl
  obtain ⟨start, keyStart, valueStart, composer, nodes, composed⟩ := document_line kinds
  rw [String.ofList_toList, String.ofList_toList] at nodes
  obtain ⟨workshop, ran⟩ :=
    make_line start keyStart valueStart entry.string scalar (means _ valueStart)
  have document : compose (lineOf key.toList (value.toList ++ ending))
      = .ok (some ⟨composer.nodes, 0⟩) := by
    rw [compose, seven]
    simp only [composed]
  rw [read, document, nodes]
  simp only [bind, Except.bind, ran]
  rfl

/-- A line whose value ends in a colon is refused. -/
theorem read_second (entry : IsEntry key value) {front : List Char} (some : front ≠ [])
    (ends : value.toList = front ++ [':']) (isEnding : IsEnding ending) :
    read (lineOf key.toList (value.toList ++ ending)) = .error .refused := by
  have word : ∀ c ∈ front, c ∈ wordChars := fun c member =>
    entry.word c (ends ▸ List.mem_append_left _ member)
  obtain ⟨kinds, halt⟩ := scan_second entry.name some word isEnding
  rw [ends, List.append_assoc, List.singleton_append]
  have five : (scan (lineOf key.toList (front ++ ':' :: ending))).tokens.length = 5 := by
    rw [← List.length_map Token.kind, kinds]
    rfl
  have composed : compose (lineOf key.toList (front ++ ':' :: ending)) = .error .refused := by
    rw [compose, five]
    simp only [document_second kinds, halt]
    rfl
  rw [read, composed]
  rfl

end Read

end Clat.Format.Yaml
