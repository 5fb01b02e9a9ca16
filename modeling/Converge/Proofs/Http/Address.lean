import Converge.Http.Address
import Converge.Proofs.Text.Percent

/-!
# Places beneath an address

An address that names a server, and neither asks nor points within a document, can be
written on: pieces behind it, each with a separator in front, become the segments behind its
own. They do so one for one where no piece is a dot or two dots, and their characters are
those of encoded texts. A query behind them is the query of the address.
-/

namespace Converge.Http.Address

open Text

/-! ## Plain characters -/

/-- What a plain character does in an address: it stands for itself. -/
theorem plain_table : ∀ n < 128, isPlain (Char.ofNat n) = true →
    isSlash (Char.ofNat n) = false ∧
      isVisibleExcept "\"#<>?^`\x7b\x7d" (Char.ofNat n) = true ∧
      isVisibleExcept "\"#<>'" (Char.ofNat n) = true := by decide +kernel

theorem of_plain {c : Char} (plain : isPlain c = true) :
    isSlash c = false ∧ isVisibleExcept "\"#<>?^`\x7b\x7d" c = true ∧
      isVisibleExcept "\"#<>'" c = true := by
  have facts := plain_table c.toNat (lt_of_isPlain plain)
  rw [Char.ofNat_toNat] at facts
  exact facts plain

/-- A visible character counts as written. -/
theorem lt_toNat_of_visible {refused : String} {c : Char}
    (visible : isVisibleExcept refused c = true) : 0x20 < c.toNat := by
  simp only [isVisibleExcept, Bool.and_eq_true, decide_eq_true_eq] at visible
  omega

/-- A character that is refused is not among the visible ones left. -/
theorem ne_of_visible {refused : String} {c mark : Char} (isRefused : mark ∈ refused.toList)
    (visible : isVisibleExcept refused c = true) : c ≠ mark := by
  rintro rfl
  simp only [isVisibleExcept, Bool.and_eq_true, Bool.not_eq_true', List.contains_eq_mem,
    decide_eq_false_iff_not] at visible
  exact visible.2 isRefused

/-- Characters that may stand for themselves are not escaped. -/
theorem flatMap_escapeUnless {allowed : Char → Bool} {text : List Char}
    (each : ∀ c ∈ text, allowed c = true) : text.flatMap (escapeUnless allowed) = text := by
  induction text with
  | nil => rfl
  | cons c rest ih =>
      rw [List.flatMap_cons, ih fun d mem => each d (List.mem_cons_of_mem c mem), escapeUnless,
        if_pos (each c List.mem_cons_self)]
      rfl

/-! ## Segments -/

theorem segments_ne_nil (text : List Char) : segments text ≠ [] := by
  cases text with
  | nil => exact List.cons_ne_nil _ _
  | cons c rest =>
      rw [segments]
      split
      · exact List.cons_ne_nil _ _
      · split <;> exact List.cons_ne_nil _ _

/-- Text without a separator is one segment. -/
theorem segments_of_solid {piece : List Char} (solid : ∀ c ∈ piece, isSlash c = false) :
    segments piece = [piece] := by
  induction piece with
  | nil => rfl
  | cons c rest ih =>
      rw [segments, solid c List.mem_cons_self, if_neg Bool.false_ne_true,
        ih fun d mem => solid d (List.mem_cons_of_mem c mem)]

/-- A separator ends the segments before it. -/
theorem segments_append_slash (front text : List Char) :
    segments (front ++ '/' :: text) = segments front ++ segments text := by
  induction front with
  | nil => rfl
  | cons c rest ih =>
      rw [List.cons_append, segments, segments, ih]
      split
      · rfl
      · cases read : segments rest with
        | nil => exact absurd read (segments_ne_nil rest)
        | cons first others => rfl

/-- Pieces that are written with separators between them are read again. -/
theorem segments_renderPath {first : List Char} {others : List (List Char)}
    (solid : ∀ piece ∈ first :: others, ∀ c ∈ piece, isSlash c = false) :
    segments (first ++ renderPath others) = first :: others := by
  induction others generalizing first with
  | nil =>
      rw [renderPath, List.flatMap_nil, List.append_nil]
      exact segments_of_solid (solid first List.mem_cons_self)
  | cons piece others ih =>
      have rest := ih fun other mem => solid other (List.mem_cons_of_mem first mem)
      rw [renderPath] at rest
      rw [renderPath, List.flatMap_cons, List.cons_append, segments_append_slash,
        segments_of_solid (solid first List.mem_cons_self), rest]
      rfl

/-- Pieces without separators can be read off the path that they make. -/
theorem renderPath_inj {pieces others : List (List Char)}
    (solid : ∀ piece ∈ pieces, ∀ c ∈ piece, isSlash c = false)
    (solid' : ∀ piece ∈ others, ∀ c ∈ piece, isSlash c = false)
    (same : renderPath pieces = renderPath others) : pieces = others := by
  cases pieces with
  | nil =>
      cases others with
      | nil => rfl
      | cons => exact absurd same.symm (List.cons_ne_nil _ _)
  | cons first pieces =>
      cases others with
      | nil => exact absurd same (List.cons_ne_nil _ _)
      | cons first' others =>
          have behind : first ++ renderPath pieces = first' ++ renderPath others :=
            (List.cons.inj same).2
          rw [← segments_renderPath solid, ← segments_renderPath solid', behind]

/-! ## Following -/

theorem staysPut_iff {segment : List Char} :
    staysPut segment = true ↔ segment.map Char.toLower ∈ dots := by
  have spellings : [".", "%2e"] = dots.map String.ofList := rfl
  rw [staysPut, spellings, List.contains_iff_mem, List.mem_map]
  constructor
  · rintro ⟨dot, isDot, same⟩
    exact String.ofList_inj.mp same ▸ isDot
  · intro isDot
    exact ⟨_, isDot, rfl⟩

theorem goesBack_iff {segment : List Char} :
    goesBack segment = true ↔
      ∃ dot ∈ dots, ∃ dot' ∈ dots, segment.map Char.toLower = dot ++ dot' := by
  have spellings : ["..", ".%2e", "%2e.", "%2e%2e"] =
      dots.flatMap fun dot => dots.map fun dot' => String.ofList (dot ++ dot') := rfl
  rw [goesBack, spellings, List.contains_iff_mem, List.mem_flatMap]
  constructor
  · rintro ⟨dot, isDot, mem⟩
    obtain ⟨dot', isDot', same⟩ := List.mem_map.mp mem
    exact ⟨dot, isDot, dot', isDot', (String.ofList_inj.mp same).symm⟩
  · rintro ⟨dot, isDot, dot', isDot', same⟩
    exact ⟨dot, isDot, List.mem_map.mpr ⟨dot', isDot', congrArg String.ofList same.symm⟩⟩

/-- An encoded text stays where it is only if it is a dot. -/
theorem staysPut_percentEncode {text : String} (other : text ≠ ".") :
    staysPut (percentEncode text) = false := by
  rw [← Bool.not_eq_true, staysPut_iff]
  intro isDot
  exact other (eq_dot_of_percentEncode isDot rfl)

/-- An encoded text goes back only if it is two dots. -/
theorem goesBack_percentEncode {text : String} (other : text ≠ "..") :
    goesBack (percentEncode text) = false := by
  rw [← Bool.not_eq_true, goesBack_iff]
  rintro ⟨dot, isDot, dot', isDot', spelled⟩
  exact other (eq_dots_of_percentEncode isDot isDot' spelled)

/-- Where the walk is after one segment with others behind it. -/
def walk (walked : List (List Char)) (segment : List Char) : List (List Char) :=
  if goesBack segment then walked.drop 1
  else if staysPut segment then walked else segment :: walked

/-- Segments with others behind them are walked one after the other. -/
theorem follow_append {front rest : List (List Char)} (more : rest ≠ [])
    (walked : List (List Char)) :
    follow walked (front ++ rest) = follow (front.foldl walk walked) rest := by
  induction front generalizing walked with
  | nil => rfl
  | cons segment front ih =>
      have behind : (front ++ rest).isEmpty = false := by
        cases front with
        | nil => simpa using more
        | cons => rfl
      rw [List.cons_append, follow, List.foldl_cons, walk, behind]
      split
      · exact ih _
      · split
        · exact ih _
        · exact ih _

/-- Segments that lead nowhere else are walked as they are. -/
theorem follow_of_straight {segments : List (List Char)}
    (straight : ∀ segment ∈ segments, goesBack segment = false ∧ staysPut segment = false)
    (walked : List (List Char)) : follow walked segments = walked.reverse ++ segments := by
  induction segments generalizing walked with
  | nil => rw [follow, List.append_nil]
  | cons segment rest ih =>
      obtain ⟨onward, away⟩ := straight segment List.mem_cons_self
      rw [follow, onward, away, if_neg Bool.false_ne_true, if_neg Bool.false_ne_true,
        ih fun other mem => straight other (List.mem_cons_of_mem segment mem),
        List.reverse_cons, List.append_assoc]
      rfl

/-! ## Reading -/

/-- What is left of a text that something is written behind. -/
def lead (text : String) : List Char :=
  (text.toList.dropWhile fun c => decide (c.toNat ≤ 0x20)).filter
    fun c => !(c == '\t' || c == '\n' || c == '\r')

/-- Nothing is dropped in front of a character that stays. -/
theorem dropWhile_append_of_stays {dropped : Char → Bool} (text : List Char) {tail : List Char}
    (stays : ∀ c ∈ tail, dropped c = false) :
    (text ++ tail).dropWhile dropped = text.dropWhile dropped ++ tail := by
  induction text with
  | nil =>
      cases tail with
      | nil => rfl
      | cons c rest =>
          rw [List.nil_append, List.dropWhile_cons, stays c List.mem_cons_self,
            if_neg Bool.false_ne_true]
          rfl
  | cons c rest ih =>
      rw [List.cons_append, List.dropWhile_cons, List.dropWhile_cons, ih]
      split <;> rfl

/-- Characters that are not blank count, and so does what stands before them. -/
theorem written_append {text : String} {tail : List Char} (more : tail ≠ [])
    (counts : ∀ c ∈ tail, 0x20 < c.toNat) :
    written (text ++ String.ofList tail) = lead text ++ tail := by
  have stays : ∀ c ∈ tail, decide (c.toNat ≤ 0x20) = false := fun c mem =>
    decide_eq_false (Nat.not_le.mpr (counts c mem))
  have kept : tail.filter (fun c => !(c == '\t' || c == '\n' || c == '\r')) = tail := by
    rw [List.filter_eq_self]
    intro c mem
    have count := counts c mem
    simp only [Bool.not_eq_true', Bool.or_eq_false_iff, beq_eq_false_iff_ne]
    refine ⟨⟨?_, ?_⟩, ?_⟩ <;>
      · rintro rfl
        exact absurd count (by decide)
  -- The last character is one of the tail, so that nothing is dropped behind.
  have closed : ∀ front : List Char,
      (front ++ tail).reverse.dropWhile (fun c => decide (c.toNat ≤ 0x20)) =
        (front ++ tail).reverse := by
    intro front
    rw [List.reverse_append]
    cases back : tail.reverse with
    | nil => exact absurd (List.reverse_eq_nil_iff.mp back) more
    | cons c rest =>
        have mem : c ∈ tail := List.mem_reverse.mp (back ▸ List.mem_cons_self)
        rw [List.cons_append, List.dropWhile_cons, stays c mem, if_neg Bool.false_ne_true]
  simp only [written]
  rw [String.toList_append, String.toList_ofList, dropWhile_append_of_stays _ stays, closed,
    List.reverse_reverse, List.filter_append, kept]
  rfl

theorem takeWhile_of_all {kept : Char → Bool} {text : List Char}
    (all : ∀ c ∈ text, kept c = true) : text.takeWhile kept = text := by
  have front : (text ++ []).takeWhile kept = text ++ [].takeWhile kept :=
    List.takeWhile_append_of_pos all
  rwa [List.append_nil, List.takeWhile_nil, List.append_nil] at front

theorem bne_of_not_mem {mark : Char} {text : List Char} (absent : mark ∉ text) :
    ∀ c ∈ text, (c != mark) = true := by
  intro c mem
  rw [bne_iff_ne]
  rintro rfl
  exact absent mem

/-- Text without the mark is not cut. -/
theorem cut_of_not_mem {mark : Char} {text : List Char} (absent : mark ∉ text) :
    cut mark text = (text, none) := by
  rw [cut, takeWhile_of_all (bne_of_not_mem absent), List.drop_length]

/-- Text is cut at the first mark. -/
theorem cut_append_cons {mark : Char} {front : List Char} (absent : mark ∉ front)
    (text : List Char) : cut mark (front ++ mark :: text) = (front, some text) := by
  have taken : (front ++ mark :: text).takeWhile (· != mark) = front := by
    rw [List.takeWhile_append_of_pos (bne_of_not_mem absent), List.takeWhile_cons_of_neg (by simp),
      List.append_nil]
  rw [cut, taken, List.drop_left]

/-- A part behind its mark is cut off again. -/
theorem cut_append_behind {mark : Char} {front : List Char} (absent : mark ∉ front)
    (part : Option (List Char)) : cut mark (front ++ behind mark part) = (front, part) := by
  cases part with
  | none => rw [behind, List.append_nil, cut_of_not_mem absent]
  | some text => exact cut_append_cons absent text

/-- The mark of a text that is not cut does not occur in it. -/
theorem not_mem_of_cut {mark : Char} {text : List Char} (uncut : (cut mark text).2 = none) :
    mark ∉ text := by
  intro mem
  obtain ⟨front, behind, rfl, absent⟩ := List.eq_append_cons_of_mem mem
  rw [cut_append_cons absent] at uncut
  exact absurd uncut (by simp)

/-- A scheme is read off the text in front of the first colon. -/
theorem scheme?_append_cons {name : List Char} (absent : ':' ∉ name) {text : List Char}
    {scheme : String} {usual : Nat} {rest : List Char}
    (reads : scheme? (name ++ ':' :: text) = some (scheme, usual, rest)) :
    rest = text ∧ ∀ other, scheme? (name ++ ':' :: other) = some (scheme, usual, other) := by
  rw [scheme?, cut_append_cons absent] at reads
  simp only at reads
  split at reads
  next http =>
    cases reads
    refine ⟨rfl, fun other => ?_⟩
    rw [scheme?, cut_append_cons absent]
    simp only [http]
  next https =>
    cases reads
    refine ⟨rfl, fun other => ?_⟩
    rw [scheme?, cut_append_cons absent]
    simp only [https]
  next => cases reads

/-- A scheme ends before the first separator. -/
theorem scheme?_append_slash {front : List Char} {scheme : String} {usual : Nat}
    {rest : List Char} (reads : scheme? (front ++ ['/']) = some (scheme, usual, rest)) :
    ∃ behind, rest = behind ++ ['/'] ∧
      ∀ more, scheme? (front ++ '/' :: more) = some (scheme, usual, behind ++ '/' :: more) := by
  by_cases colon : ':' ∈ front
  · obtain ⟨name, behind, rfl, absent⟩ := List.eq_append_cons_of_mem colon
    rw [List.append_assoc, List.cons_append] at reads
    obtain ⟨rest, every⟩ := scheme?_append_cons absent reads
    refine ⟨behind, rest, fun more => ?_⟩
    rw [List.append_assoc, List.cons_append]
    exact every _
  · have absent : ':' ∉ front ++ ['/'] := by
      rw [List.mem_append, not_or]
      exact ⟨colon, by decide⟩
    rw [scheme?, cut_of_not_mem absent] at reads
    exact absurd reads (by simp)

/-! ## Servers and places -/

/-- Whether a character ends the name of the server. -/
def endsServer (c : Char) : Bool := isSlash c || c == '?' || c == '#'

/-- The address of a place on a server. -/
def ofPlace (origin : String) (place : List Char) : Address :=
  ⟨origin, follow [] ((segments ((cut '?' (cut '#' place).1).1.drop 1)).map escapePath),
    (cut '?' (cut '#' place).1).2.map escapeQuery, (cut '#' place).2.map escapeFragment⟩

/-- How the text behind a scheme is read. -/
def ofRest? (scheme : String) (usual : Nat) (rest : List Char) : Option Address :=
  let authority := (rest.dropWhile isSlash).takeWhile fun c => !endsServer c
  (server? usual authority).map fun server =>
    ofPlace (scheme ++ "://" ++ server) ((rest.dropWhile isSlash).drop authority.length)

/-- An address is read in two steps: the scheme, and the rest behind it. -/
theorem ofText?_eq (text : String) :
    ofText? text =
      (scheme? (written text)).bind fun (scheme, usual, rest) => ofRest? scheme usual rest := by
  unfold ofText?
  cases scheme? (written text) with
  | none => simp only [Option.bind_eq_bind, Option.bind_none]
  | some reading =>
      obtain ⟨scheme, usual, rest⟩ := reading
      simp only [Option.bind_eq_bind, Option.bind_some, ofRest?, endsServer]
      cases server? usual ((rest.dropWhile isSlash).takeWhile fun c =>
        !(isSlash c || c == '?' || c == '#')) with
      | none => simp only [Option.bind_none, Option.map_none]
      | some server => simp only [Option.bind_some, Option.map_some, ofPlace, pure]

theorem takeWhile_append_cons {kept : Char → Bool} {c : Char} (stops : kept c = false)
    (text more : List Char) : (text ++ c :: more).takeWhile kept = text.takeWhile kept := by
  induction text with
  | nil => rw [List.nil_append, List.takeWhile_cons, stops, if_neg Bool.false_ne_true]; rfl
  | cons d rest ih =>
      rw [List.cons_append, List.takeWhile_cons, List.takeWhile_cons, ih]

/-- The server stays the same whatever is written behind the separator that ends its name. -/
theorem ofRest?_append_slash {scheme : String} {usual : Nat} {front : List Char}
    {root : Address} (reads : ofRest? scheme usual (front ++ ['/']) = some root) :
    ∃ origin place, root = ofPlace origin (place ++ ['/']) ∧
      ∀ more, ofRest? scheme usual (front ++ '/' :: more) =
        some (ofPlace origin (place ++ '/' :: more)) := by
  cases named : front.dropWhile isSlash with
  | nil =>
      -- nothing in front of the separator names a server, which the address needs
      have empty : (front ++ ['/']).dropWhile isSlash = [] := by
        rw [List.dropWhile_append, named]
        rfl
      rw [ofRest?, empty] at reads
      exact absurd reads (by simp [server?, cut])
  | cons c rest =>
      have rest_eq : ∀ more, (front ++ '/' :: more).dropWhile isSlash =
          (c :: rest) ++ '/' :: more := by
        intro more
        rw [List.dropWhile_append, named]
        rfl
      have stops : (!endsServer '/') = false := rfl
      have place_eq : ∀ more,
          ((c :: rest) ++ '/' :: more).drop ((c :: rest).takeWhile fun c => !endsServer c).length =
            (c :: rest).drop ((c :: rest).takeWhile fun c => !endsServer c).length ++
              '/' :: more := by
        intro more
        exact List.drop_append_of_le_length (List.takeWhile_prefix _).length_le
      rw [ofRest?, rest_eq, takeWhile_append_cons stops, place_eq] at reads
      obtain ⟨server, known, isRoot⟩ := Option.map_eq_some_iff.mp reads
      refine ⟨scheme ++ "://" ++ server, _, isRoot.symm, fun more => ?_⟩
      rw [ofRest?, rest_eq, takeWhile_append_cons stops, place_eq, known]
      rfl

/-! ## Straight pieces -/

/-- A piece that is a segment as it is written. -/
structure Straight (piece : List Char) : Prop where
  plain : ∀ c ∈ piece, isPlain c = true
  onward : goesBack piece = false
  away : staysPut piece = false

/-- An encoded text is a segment, unless it is one of the two that a path follows. -/
theorem straight_percentEncode {text : String} (notDot : text ≠ ".") (notDots : text ≠ "..") :
    Straight (percentEncode text) where
  plain _ mem := plain_of_mem_percentEncode mem
  onward := goesBack_percentEncode notDots
  away := staysPut_percentEncode notDot

theorem Straight.solid {piece : List Char} (straight : Straight piece) :
    ∀ c ∈ piece, isSlash c = false :=
  fun c mem => (of_plain (straight.plain c mem)).1

theorem Straight.escapePath_eq {piece : List Char} (straight : Straight piece) :
    escapePath piece = piece :=
  flatMap_escapeUnless fun c mem => (of_plain (straight.plain c mem)).2.1

theorem map_escapePath {pieces : List (List Char)} (straight : ∀ piece ∈ pieces, Straight piece) :
    pieces.map escapePath = pieces := by
  rw [List.map_congr_left fun piece mem => (straight piece mem).escapePath_eq, List.map_id']

/-- The segments before the last separator do not depend on what is behind it. -/
theorem exists_segments (place : List Char) :
    ∃ front, ∀ text, segments ((place ++ '/' :: text).drop 1) = front ++ segments text := by
  cases place with
  | nil => exact ⟨[], fun text => rfl⟩
  | cons c rest => exact ⟨segments rest, fun text => segments_append_slash rest text⟩

/-- Straight pieces behind a separator end the path of a place; how it begins does not depend
on them. -/
theorem exists_walked (place : List Char) :
    ∃ walked, ∀ first others, (∀ piece ∈ first :: others, Straight piece) →
      follow [] ((segments ((place ++ '/' :: (first ++ renderPath others)).drop 1)).map
        escapePath) = walked ++ first :: others := by
  obtain ⟨front, split⟩ := exists_segments place
  refine ⟨((front.map escapePath).foldl walk []).reverse, fun first others straight => ?_⟩
  rw [split, segments_renderPath fun piece mem => (straight piece mem).solid, List.map_append,
    map_escapePath straight, follow_append (List.cons_ne_nil _ _)]
  exact follow_of_straight (fun piece mem => ⟨(straight piece mem).onward,
    (straight piece mem).away⟩) _

theorem straight_nil : Straight [] where
  plain := by simp
  onward := by decide
  away := by decide

/-- A character of a rendered path is a separator, or one of a piece. -/
theorem mem_renderPath {pieces : List (List Char)} {c : Char} (mem : c ∈ renderPath pieces) :
    c = '/' ∨ ∃ piece ∈ pieces, c ∈ piece := by
  obtain ⟨piece, isPiece, mem⟩ := List.mem_flatMap.mp mem
  obtain slash | mem := List.mem_cons.mp mem
  · exact Or.inl slash
  · exact Or.inr ⟨piece, isPiece, mem⟩

/-- A character behind a mark is the mark, or one of the part behind it. -/
theorem mem_behind {mark : Char} {part : Option (List Char)} {c : Char}
    (mem : c ∈ behind mark part) : c = mark ∨ ∃ text ∈ part, c ∈ text := by
  cases part with
  | none => exact absurd mem (by simp [behind])
  | some text =>
      obtain isMark | mem := List.mem_cons.mp mem
      · exact Or.inl isMark
      · exact Or.inr ⟨text, rfl, mem⟩

/-- A mark that is not plain does not occur in a path of straight pieces. -/
theorem not_mem_renderPath {pieces : List (List Char)}
    (straight : ∀ piece ∈ pieces, Straight piece) {mark : Char}
    (isMark : mark ≠ '/' ∧ isPlain mark = false) : mark ∉ renderPath pieces := by
  intro mem
  obtain slash | ⟨piece, isPiece, mem⟩ := mem_renderPath mem
  · exact isMark.1 slash
  · have plain := (straight piece isPiece).plain mark mem
    rw [isMark.2] at plain
    exact Bool.false_ne_true plain

/-! ## Writing on -/

/-- A place beneath one that neither asks nor points has the pieces behind its segments. -/
theorem ofPlace_append {origin : String} {place : List Char}
    (unqueried : (ofPlace origin (place ++ ['/'])).query = none)
    (unpointed : (ofPlace origin (place ++ ['/'])).fragment = none)
    {first : List Char} {others : List (List Char)}
    (straight : ∀ piece ∈ first :: others, Straight piece) {query : Option (List Char)}
    (visible : ∀ text ∈ query, ∀ c ∈ text, isVisibleExcept "\"#<>'" c = true) :
    ofPlace origin (place ++ '/' :: (first ++ renderPath others) ++ behind '?' query) =
      ⟨origin, (ofPlace origin (place ++ ['/'])).path.dropLast ++ first :: others, query,
        none⟩ := by
  have noPoint : '#' ∉ place ++ ['/'] := not_mem_of_cut (Option.map_eq_none_iff.mp unpointed)
  have noQuery : '?' ∉ place ++ ['/'] := by
    have uncut := Option.map_eq_none_iff.mp unqueried
    rw [cut_of_not_mem noPoint] at uncut
    exact not_mem_of_cut uncut
  obtain ⟨walked, path⟩ := exists_walked place
  -- the place itself is the case of a single piece without characters
  have root : (ofPlace origin (place ++ ['/'])).path = walked ++ [[]] := by
    rw [ofPlace, cut_of_not_mem noPoint, cut_of_not_mem noQuery]
    exact path [] [] (by simpa using straight_nil)
  have written : place ++ '/' :: (first ++ renderPath others) =
      place ++ renderPath (first :: others) := rfl
  have outside {mark : Char} (absent : mark ∉ place ++ ['/'])
      (isMark : mark ≠ '/' ∧ isPlain mark = false) :
      mark ∉ place ++ '/' :: (first ++ renderPath others) := by
    rw [written, List.mem_append, not_or]
    exact ⟨fun mem => absent (List.mem_append_left _ mem), not_mem_renderPath straight isMark⟩
  have noPoint' :
      '#' ∉ place ++ '/' :: (first ++ renderPath others) ++ behind '?' query := by
    rw [List.mem_append, not_or]
    refine ⟨outside noPoint (by decide), fun mem => ?_⟩
    obtain mark | ⟨text, isQuery, mem⟩ := mem_behind mem
    · exact absurd mark (by decide)
    · exact ne_of_visible (by decide) (visible text isQuery '#' mem) rfl
  have asked : query.map escapeQuery = query := by
    cases query with
    | none => rfl
    | some text => exact congrArg some (flatMap_escapeUnless (visible text rfl))
  rw [root, List.dropLast_concat, ofPlace, cut_of_not_mem noPoint',
    cut_append_behind (outside noQuery (by decide)), path first others straight, asked]
  rfl

/-- The address of what is right beneath a base, where the base neither asks nor points. -/
structure IsRoot (base : String) (root : Address) : Prop where
  place : ofText? (base ++ "/") = some root
  unqueried : root.query = none
  unpointed : root.fragment = none

/-- Straight pieces that are written behind a base are the segments of the address behind
those of the base, one for one. -/
theorem ofText?_append {base : String} {root : Address} (isRoot : IsRoot base root)
    {pieces : List (List Char)} (some_piece : pieces ≠ [])
    (straight : ∀ piece ∈ pieces, Straight piece) {query : Option (List Char)}
    (visible : ∀ text ∈ query, ∀ c ∈ text, isVisibleExcept "\"#<>'" c = true) :
    ofText? (base ++ String.ofList (renderPath pieces ++ behind '?' query)) =
      some ⟨root.origin, root.path.dropLast ++ pieces, query, none⟩ := by
  obtain ⟨first, others, rfl⟩ := List.exists_cons_of_ne_nil some_piece
  have counts : ∀ c ∈ renderPath (first :: others) ++ behind '?' query, 0x20 < c.toNat := by
    intro c mem
    obtain path | query := List.mem_append.mp mem
    · obtain rfl | ⟨piece, isPiece, mem⟩ := mem_renderPath path
      · decide
      · exact lt_toNat_of_visible (of_plain ((straight piece isPiece).plain c mem)).2.1
    · obtain rfl | ⟨text, isQuery, mem⟩ := mem_behind query
      · decide
      · exact lt_toNat_of_visible (visible text isQuery c mem)
  have slash : "/" = String.ofList ['/'] := rfl
  have slash_counts : ∀ c ∈ ['/'], 0x20 < c.toNat := by
    intro c mem
    rw [List.mem_singleton.mp mem]
    decide
  have base_reads := isRoot.place
  rw [ofText?_eq, slash, written_append (List.cons_ne_nil _ _) slash_counts] at base_reads
  obtain ⟨⟨scheme, usual, rest⟩, scheme_reads, rest_reads⟩ :=
    Option.bind_eq_some_iff.mp base_reads
  obtain ⟨front, rfl, every_scheme⟩ := scheme?_append_slash scheme_reads
  obtain ⟨origin, place, rfl, every_rest⟩ := ofRest?_append_slash rest_reads
  have split : renderPath (first :: others) ++ behind '?' query =
      '/' :: (first ++ renderPath others ++ behind '?' query) := rfl
  have joined : place ++ '/' :: (first ++ renderPath others ++ behind '?' query) =
      place ++ '/' :: (first ++ renderPath others) ++ behind '?' query :=
    (List.append_assoc place ('/' :: (first ++ renderPath others)) _).symm
  rw [ofText?_eq, written_append (by rw [split]; exact List.cons_ne_nil _ _) counts, split,
    every_scheme, Option.bind_some]
  change ofRest? _ _ _ = _
  rw [every_rest, joined, ofPlace_append isRoot.unqueried isRoot.unpointed straight visible]
  rfl

end Converge.Http.Address
