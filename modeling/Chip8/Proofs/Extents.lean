import Chip8.CommandLine.ListProgram
import Chip8.Proofs.KeyLists
import Chip8.Proofs.Listings

/-!
# How much of a program is listed

A listing may be asked for with a number of words. The program is cut before it is listed, in bytes; what is printed are
lines of the whole listing nevertheless. A byte left over is shown only with all other lines, and a greater number only
adds lines. For a number below zero the listing is that of the program without so many words at its end.

Main statement: `counted_listing_is_initial`, for every command line that asks for a listing, with the plain spelling of
a number as one of them.
-/

namespace Chip8

namespace Text

/-! ## Decimal numbers -/

/-- What holds of the ten common digits. -/
structure IsCommonDigit (c : Char) : Prop where
  known : (decimalDigit? c).isSome
  common : commonDigit c = c
  solid : isBlank c = false
  value : Numeral.digitValue c = c.toNat - 48
  small : Numeral.digitValue c < 10

lemma isCommonDigit_of_isDigit {c : Char} (hc : c.isDigit) : IsCommonDigit c := by
  have hrange : 48 ≤ c.toNat ∧ c.toNat ≤ 57 := by
    simpa [Char.isDigit, UInt32.le_iff_toNat_le] using hc
  have hten : ∀ k : Fin 10, (decimalDigit? (Char.ofNat (48 + k.val))).isSome ∧
      commonDigit (Char.ofNat (48 + k.val)) = Char.ofNat (48 + k.val) ∧ isBlank (Char.ofNat (48 + k.val)) = false ∧
      Numeral.digitValue (Char.ofNat (48 + k.val)) = k.val := by decide
  obtain ⟨hknown, hcommon, hsolid, hvalue⟩ := hten ⟨c.toNat - 48, by omega⟩
  have hchar : Char.ofNat (48 + (c.toNat - 48)) = c := by
    rw [Nat.add_sub_cancel' hrange.1, Char.ofNat_toNat]
  rw [hchar] at hknown hcommon hsolid hvalue
  exact ⟨hknown, hcommon, hsolid, hvalue, by omega⟩

namespace Numeral

variable {n : Nat}

lemma isCommonDigit_of_mem_toDigits {c : Char} (hc : c ∈ Nat.toDigits 10 n) : IsCommonDigit c :=
  isCommonDigit_of_isDigit (Nat.isDigit_of_mem_toDigits (by omega) (by omega) hc)

/-- The digits that write a number are read as that number. -/
lemma magnitude?_toDigits (hshort : (Nat.toDigits 10 n).length ≤ decimalLimit) :
    magnitude? 10 (Nat.toDigits 10 n) = some n := by
  have hallowed : shortEnough 10 (Nat.toDigits 10 n) = true := by
    have hcount : (Nat.toDigits 10 n).countP (· ≠ '_') ≤ (Nat.toDigits 10 n).length := List.countP_le_length
    exact Bool.or_eq_true_iff.2 (.inr (decide_eq_true (hcount.trans hshort)))
  have hvalue : (Nat.toDigits 10 n).foldl (fun value c => value * 10 + digitValue c) 0 = n := by
    calc (Nat.toDigits 10 n).foldl (fun value c => value * 10 + digitValue c) 0
        = Nat.ofDigitChars 10 (Nat.toDigits 10 n) 0 := by
          apply List.foldl_ext
          intro value c hc
          rw [(isCommonDigit_of_mem_toDigits hc).value, Nat.mul_comm]
          rfl
      _ = n := Nat.ofDigitChars_ten_toDigits
  have hsmall : ∀ c ∈ Nat.toDigits 10 n, digitValue c < 10 := fun c hc => (isCommonDigit_of_mem_toDigits hc).small
  have hread := digits?_of_plain (by omega) Nat.toDigits_ne_nil hsmall 0
  rw [hvalue] at hread
  exact (if_pos hallowed).trans hread

/-- How an integer is written: a minus sign if it needs one, and digits. -/
lemma toList_toString (i : Int) :
    (toString i).toList = (if i < 0 then ['-'] else []) ++ Nat.toDigits 10 i.natAbs := by
  cases i with
  | ofNat n =>
    have hsign : ¬Int.ofNat n < 0 := Int.not_lt.2 (Int.natCast_nonneg n)
    rw [if_neg hsign]
    exact String.toList_ofList
  | negSucc n =>
    have hletters : (toString (Int.negSucc n)).toList = '-' :: (toString (n + 1)).toList := String.toList_append
    rw [if_pos (Int.negSucc_lt_zero n), hletters, Nat.toString_eq_ofList_toDigits, String.toList_ofList]
    rfl

lemma solid_of_mem_toString {i : Int} {c : Char} (hc : c ∈ (toString i).toList) :
    isBlank c = false ∧ commonDigit c = c := by
  rw [toList_toString, List.mem_append] at hc
  rcases hc with hsign | hdigit
  · split at hsign
    · rw [List.mem_singleton.1 hsign]
      decide
    · cases hsign
  · exact ⟨(isCommonDigit_of_mem_toDigits hdigit).solid, (isCommonDigit_of_mem_toDigits hdigit).common⟩

/-- A numeral that begins with a digit has no sign. -/
lemma signed?_of_isCommonDigit {base : Nat} {c : Char} {rest : List Char} (hc : IsCommonDigit c)
    (hread : magnitude? base (c :: rest) = some n) : signed? base (c :: rest) = some (n : Int) := by
  have hminus : ¬IsCommonDigit '-' := fun h => absurd h.small (by decide)
  have hplus : ¬IsCommonDigit '+' := fun h => absurd h.small (by decide)
  unfold signed?
  split
  · next heq =>
    rw [List.cons_eq_cons.1 heq |>.1] at hc
    exact absurd hc hminus
  · next heq =>
    rw [List.cons_eq_cons.1 heq |>.1] at hc
    exact absurd hc hplus
  · rw [hread]
    rfl

/-- A written integer is read as itself, as long as it does not have too many digits. -/
theorem read?_toString {i : Int} (hshort : (Nat.toDigits 10 i.natAbs).length ≤ decimalLimit) :
    read? 10 (toString i).toList = some i := by
  have htrim : trim (fun c => isBlank c && !isSeparator c) (toString i).toList = (toString i).toList := by
    have hcore : trim (fun c => isBlank c && !isSeparator c) ([] ++ (toString i).toList ++ []) = (toString i).toList :=
      trim_append (by simp) (by simp) fun c hc => by rw [(solid_of_mem_toString hc).1]; rfl
    rwa [List.nil_append, List.append_nil] at hcore
  have hcommon : (toString i).toList.map commonDigit = (toString i).toList := by
    refine (List.map_congr_left fun c hc => ?_).trans (List.map_id _)
    exact (solid_of_mem_toString hc).2
  rw [read?, htrim, hcommon, toList_toString]
  by_cases hneg : i < 0
  · have habs : -(i.natAbs : Int) = i := by omega
    rw [if_pos hneg, List.singleton_append, signed?, magnitude?_toDigits hshort]
    exact congrArg some habs
  · have habs : (i.natAbs : Int) = i := by omega
    obtain ⟨c, rest, hrow⟩ := List.exists_cons_of_ne_nil (Nat.toDigits_ne_nil (n := i.natAbs) (b := 10))
    have hc : IsCommonDigit c := isCommonDigit_of_mem_toDigits (n := i.natAbs) (by rw [hrow]; exact List.mem_cons_self)
    have hread := magnitude?_toDigits hshort
    rw [hrow] at hread
    rw [if_neg hneg, List.nil_append, hrow, signed?_of_isCommonDigit hc hread, habs]

end Numeral

end Text

namespace CommandLine

/-! ## Command lines with a number -/

variable {argument : String} {specs : List OptionSpec}

lemma classify_of_no_minus (hplain : argument.toList.head? ≠ some '-') :
    classify specs argument = .ok (.operand argument) := by
  unfold classify
  split
  · next heq => exact absurd (congrArg List.head? heq) hplain
  · next heq => exact absurd (congrArg List.head? heq) hplain
  · next heq => exact absurd (congrArg List.head? heq) hplain
  · rfl

lemma head?_toString_of_nonneg {i : Int} (h0 : 0 ≤ i) : (toString i).toList.head? ≠ some '-' := by
  intro hminus
  rw [Text.Numeral.toList_toString, if_neg (by omega), List.nil_append] at hminus
  have hdigit := Text.Numeral.isCommonDigit_of_mem_toDigits (List.mem_of_head? hminus)
  exact absurd hdigit.small (by decide)

lemma toList_toString_of_neg {i : Int} (hneg : i < 0) : (toString i).toList = '-' :: Nat.toDigits 10 i.natAbs := by
  rw [Text.Numeral.toList_toString, if_pos hneg]
  rfl

/-- A negative number does not look like an option. -/
lemma looksNegative_toString {i : Int} (hneg : i < 0) : looksNegative (toString i) = true := by
  have hdigits {c : Char} (hc : c ∈ Nat.toDigits 10 i.natAbs) := Text.Numeral.isCommonDigit_of_mem_toDigits hc
  have hend : ¬(Nat.toDigits 10 i.natAbs).getLast? = some '\n' := fun hlast =>
    absurd (hdigits (List.mem_of_getLast? hlast)).small (by decide)
  have hpoint : '.' ∉ Nat.toDigits 10 i.natAbs := fun hmem => absurd (hdigits hmem).small (by decide)
  have hwhole : isDigits (Nat.toDigits 10 i.natAbs) = true := by
    rw [isDigits, Bool.and_eq_true]
    exact ⟨by simp [Nat.toDigits_ne_nil], List.all_eq_true.2 fun c hc => (hdigits hc).known⟩
  unfold looksNegative
  rw [toList_toString_of_neg hneg]
  simp only [if_neg hend, List.splitOn_eq_singleton hpoint, hwhole]

lemma classify_toString (i : Int) : classify specs (toString i) = .ok (.operand (toString i)) := by
  by_cases hneg : i < 0
  · obtain ⟨c, rest, hrow⟩ := List.exists_cons_of_ne_nil (Nat.toDigits_ne_nil (n := i.natAbs) (b := 10))
    have hsmall : Text.Numeral.digitValue c < 10 :=
      (Text.Numeral.isCommonDigit_of_mem_toDigits (n := i.natAbs) (by rw [hrow]; exact List.mem_cons_self)).small
    have htext : (toString i).toList = '-' :: c :: rest := by rw [toList_toString_of_neg hneg, hrow]
    have hoperand : classify.unknown (toString i) = .ok (.operand (toString i)) := by
      rw [classify.unknown, looksNegative_toString hneg, Bool.true_or, if_pos rfl]
    unfold classify
    rw [htext]
    split
    · next heq =>
      cases heq
      exact absurd hsmall (by decide)
    · next heq =>
      cases heq
      exact absurd hsmall (by decide)
    · exact hoperand
    · next hother => exact absurd rfl (hother c rest)
  · exact classify_of_no_minus (head?_toString_of_nonneg (by omega))

lemma roles_cons {role : Role} {rest : List String} {others : List Role} (hplain : argument ≠ "--")
    (hrole : classify specs argument = .ok role) (hothers : roles specs rest = .ok others) :
    roles specs (argument :: rest) = .ok (role :: others) := by
  rw [roles, if_neg hplain, hrole, hothers]
  rfl

namespace ListProgram

variable {name : String}

lemma ne_separator (hname : name.toList.head? ≠ some '-') : name ≠ "--" := by
  rintro rfl
  exact hname rfl

lemma request_whole (hname : name.toList.head? ≠ some '-') : request [name] = .ok ⟨name, .whole⟩ := by
  have hroles : roles specs [name] = .ok [.operand name] :=
    roles_cons (ne_separator hname) (classify_of_no_minus hname) rfl
  rw [request, parse, hroles]
  rfl

lemma request_words (hname : name.toList.head? ≠ some '-') {count : Int}
    (hshort : (Nat.toDigits 10 count.natAbs).length ≤ Text.Numeral.decimalLimit) :
    request [name, "--count", toString count] = .ok ⟨name, .words count⟩ := by
  have hnumber : toString count ≠ "--" := by
    intro hsame
    have hread := Text.Numeral.read?_toString hshort
    have hnone : Text.Numeral.read? 10 "--".toList = none := by decide
    rw [hsame, hnone] at hread
    cases hread
  have hroles : roles specs [name, "--count", toString count] =
      .ok [.operand name, .option ⟨"--count", true⟩ none, .operand (toString count)] :=
    roles_cons (ne_separator hname) (classify_of_no_minus hname)
      (roles_cons (by decide) rfl (roles_cons hnumber (classify_toString count) rfl))
  have htaken : Extent.take .whole ⟨"--count", some (toString count)⟩ = .ok (.words count) := by
    rw [Extent.take, integer]
    dsimp only
    rw [Text.Numeral.read?_toString hshort]
    rfl
  have hassembled : assemble Extent.take none .whole
      [.operand name, .option ⟨"--count", true⟩ none, .operand (toString count)] = .ok (name, .words count) := by
    have hoption : assemble Extent.take (some name) .whole [.option ⟨"--count", true⟩ none, .operand (toString count)] =
        Extent.take .whole ⟨"--count", some (toString count)⟩ >>= fun taken =>
          assemble Extent.take (some name) taken [] := by
      rw [assemble, if_neg (by decide)]
      rfl
    calc assemble Extent.take none .whole [.operand name, .option ⟨"--count", true⟩ none, .operand (toString count)]
        = assemble Extent.take (some name) .whole [.option ⟨"--count", true⟩ none, .operand (toString count)] := rfl
      _ = .ok (name, .words count) := by
        rw [hoption, htaken]
        rfl
  rw [request, parse, hroles]
  exact congrArg (· >>= fun taken => pure (Request.mk taken.1 taken.2)) hassembled

end ListProgram

end CommandLine

namespace Listing

/-! ## Lines of a program that was cut -/

lemma cut_ofNat (n : Nat) (program : List UInt8) : cut n program = program.take (2 * n) := by
  rw [cut, if_neg (by omega)]
  rfl

lemma cut_of_neg {count : Int} (hneg : count < 0) (program : List UInt8) :
    cut count program = program.take (program.length - 2 * count.natAbs) := by
  rw [cut, if_pos hneg]
  congr 1
  omega

lemma entries_take (start : Int) (program : List UInt8) (n : Nat) :
    entries start (program.take (2 * n)) = (entries start program).take n := by
  induction start, program using entries.induct generalizing n with
  | case1 start high low rest ih =>
    cases n with
    | zero => rfl
    | succ n =>
      rw [entries, List.take_succ_cons, ← ih n]
      rfl
  | case2 start value =>
    cases n with
    | zero => rfl
    | succ n => rw [Nat.mul_succ, List.take_succ_cons, List.take_nil, entries, List.take_succ_cons, List.take_nil]
  | case3 start => rw [List.take_nil, entries, List.take_nil]

lemma lines_take (start : Int) (program : List UInt8) (n : Nat) :
    lines start (program.take (2 * n)) = (lines start program).take n := by
  rw [lines, lines, entries_take, List.map_take]

variable {start : Int} {program : List UInt8} {last : UInt8}

/-- The line of a byte left over stands at the end. -/
lemma getElem?_lines_left_over (hodd : program.length % 2 = 1) (hlast : program.getLast? = some last) :
    (lines start program)[(program.length - 1) / 2]? =
      some (Entry.byte (start + (program.length - 1 : Nat)) last).text := by
  obtain ⟨e, he, haddress, hbytes⟩ := exists_entry start program (i := (program.length - 1) / 2) (by omega)
  have hplace : 2 * ((program.length - 1) / 2) = program.length - 1 := by omega
  obtain ⟨front, rfl⟩ := List.getLast?_eq_some_iff.1 hlast
  have hfront : (front ++ [last]).length - 1 = front.length := by simp
  rw [hplace, hfront, List.drop_left] at hbytes
  have hcast : (2 : Int) * (((front ++ [last]).length - 1) / 2 : Nat) = ((front ++ [last]).length - 1 : Nat) := by omega
  rw [hcast] at haddress
  cases e with
  | word address high low => simp [Entry.bytes] at hbytes
  | byte address value =>
    obtain rfl : value = last := by simpa [Entry.bytes] using hbytes
    rw [lines, List.getElem?_map, he, ← haddress]
    rfl

/-- It is the last of the first lines only if they are all lines. -/
lemma getLast?_take_lines (hodd : program.length % 2 = 1) (hlast : program.getLast? = some last) (n : Nat) :
    ((lines start program).take n).getLast? = some (Entry.byte (start + (program.length - 1 : Nat)) last).text ↔
      (lines start program).length ≤ n := by
  have hlength : (lines start program).length = (program.length + 1) / 2 := by
    rw [lines, List.length_map, length_entries]
  constructor
  · intro hshown
    by_contra hfew
    rw [List.getLast?_eq_getElem?, List.length_take] at hshown
    have hn : n ≠ 0 := by
      rintro rfl
      simp at hshown
    -- a line before the last one shows two bytes
    rw [List.getElem?_take_of_lt (by omega), getElem?_lines start (by omega), Option.some_inj] at hshown
    have hbytes := congrArg bytesOf hshown
    rw [Entry.bytesOf_text, Entry.bytesOf_text] at hbytes
    simp [Entry.bytes] at hbytes
  · intro hall
    rw [List.take_of_length_le hall, List.getLast?_eq_getElem?, hlength, ← getElem?_lines_left_over hodd hlast]
    congr 1
    omega

end Listing

namespace CommandLine.ListProgram

variable {name : String} {disk : Disk} {program : List UInt8} {arguments : List String}

lemma run_of_request {extent : Extent} (hread : disk.read name = .ok program) (hzero : '\x00' ∉ name.toList)
    (hrequest : request arguments = .ok ⟨name, extent⟩) : run arguments disk = listed extent program disk := by
  have hclean : ¬name.toList.contains '\x00' := fun hmem => hzero (List.contains_iff_mem.1 hmem)
  rw [run, hrequest]
  dsimp only
  rw [if_neg hclean, hread]

lemma lines_some_ofNat (n : Nat) (program : List UInt8) : lines (some n) program = (lines none program).take n := by
  change Listing.lines programStart (Listing.cut n program) = _
  rw [Listing.cut_ofNat, Listing.lines_take]
  rfl

lemma lines_some_of_neg {count : Int} (hneg : count < 0) (program : List UInt8) :
    lines (some count) program = lines none (program.take (program.length - 2 * count.natAbs)) := by
  change Listing.lines programStart (Listing.cut count program) = _
  rw [Listing.cut_of_neg hneg]
  rfl

/-- A listing of so many words is the beginning of the whole listing, and a command line that gives a number prints just
these lines. -/
theorem counted_listing_is_initial (program : List UInt8) :
    ((∀ n : Nat, lines (some n) program = (lines none program).take n) ∧
      (∀ (n : Nat) (last : UInt8), program.length % 2 = 1 → program.getLast? = some last →
        ((lines (some n) program).getLast? =
            some (Listing.Entry.byte (programStart + (program.length - 1 : Nat)) last).text ↔
          (lines none program).length ≤ n)) ∧
      (∀ few more : Nat, few ≤ more → lines (some few) program <+: lines (some more) program) ∧
      ∀ count < (0 : Int),
        lines (some count) program = lines none (program.take (program.length - 2 * count.natAbs)) ∧
          (program.length ≤ 2 * count.natAbs → lines (some count) program = [])) ∧
    ∀ (disk : Disk) (name : String), disk.read name = .ok program → '\x00' ∉ name.toList →
      (∀ arguments, request arguments = .ok ⟨name, .whole⟩ →
        run arguments disk = ⟨.ok 0, lines none program, disk⟩) ∧
      (∀ arguments count, request arguments = .ok ⟨name, .words count⟩ →
        run arguments disk = ⟨.ok 0, lines (some count) program, disk⟩) ∧
      (name.toList.head? ≠ some '-' →
        request [name] = .ok ⟨name, .whole⟩ ∧
        ∀ count : Int, (Nat.toDigits 10 count.natAbs).length ≤ Text.Numeral.decimalLimit →
          request [name, "--count", toString count] = .ok ⟨name, .words count⟩) := by
  refine ⟨⟨fun n => lines_some_ofNat n program, ?_, ?_, ?_⟩, fun disk name hread hzero => ⟨?_, ?_, ?_⟩⟩
  · intro n last hodd hlast
    rw [lines_some_ofNat]
    exact Listing.getLast?_take_lines hodd hlast n
  · intro few more hle
    rw [lines_some_ofNat, lines_some_ofNat]
    exact List.take_prefix_take_left hle
  · intro count hneg
    refine ⟨lines_some_of_neg hneg program, fun hshort => ?_⟩
    rw [lines_some_of_neg hneg, Nat.sub_eq_zero_of_le hshort, List.take_zero]
    rfl
  · exact fun arguments hrequest => run_of_request hread hzero hrequest
  · exact fun arguments count hrequest => run_of_request hread hzero hrequest
  · exact fun hname => ⟨request_whole hname, fun count hshort => request_words hname hshort⟩

/-- Three words and a byte left over, listed for two words, for four, and for all words but one. -/
theorem counted_listing_is_initial_seven :
    let program : List UInt8 := [0x60, 0x05, 0x22, 0x10, 0xFF, 0xFF, 0xAB]
    let disk : Disk := ⟨["work"], [(["work", "prog.ch8"], program)], [], []⟩
    (run ["prog.ch8", "--count", "2"] disk).printed = ["  $200: 6005  LD V0, 0x05", "  $202: 2210  CALL 0x210"] ∧
      (run ["prog.ch8", "--count", "4"] disk).printed.getLast? = some "  $206: AB    .byte 0xAB" ∧
      (run ["prog.ch8"] disk).printed = lines (some 4) program ∧
      lines (some 2) program <+: lines (some 3) program ∧
      (run ["prog.ch8", "--count", "-1"] disk).printed =
        ["  $200: 6005  LD V0, 0x05", "  $202: 2210  CALL 0x210", "  $204: FF    .byte 0xFF"] ∧
      lines (some (-4)) program = [] := by
  intro program disk
  obtain ⟨⟨hfirst, hlast, hmore, hneg⟩, hcommand⟩ := counted_listing_is_initial program
  obtain ⟨hwhole, hwords, hspelled⟩ := hcommand disk "prog.ch8" (by decide +kernel) (by decide)
  obtain ⟨hplain, hcounted⟩ := hspelled (by decide)
  have htexts : lines none program =
      ["  $200: 6005  LD V0, 0x05", "  $202: 2210  CALL 0x210", "  $204: FFFF  .word 0xFFFF",
        "  $206: AB    .byte 0xAB"] ∧
      lines none (program.take 5) =
        ["  $200: 6005  LD V0, 0x05", "  $202: 2210  CALL 0x210", "  $204: FF    .byte 0xFF"] ∧
      (Listing.Entry.byte (programStart + (program.length - 1 : Nat)) 0xAB).text = "  $206: AB    .byte 0xAB" := by
    decide +kernel
  have htwo := hwords ["prog.ch8", "--count", "2"] 2 (hcounted 2 (by decide))
  have hfour := hwords ["prog.ch8", "--count", "4"] 4 (hcounted 4 (by decide))
  have hminus : toString (-1 : Int) = "-1" := by decide +kernel
  have hless := hwords ["prog.ch8", "--count", toString (-1 : Int)] (-1) (hcounted (-1) (by decide))
  rw [hminus] at hless
  have htake : lines (some 2) program = (lines none program).take 2 := hfirst 2
  have hall : lines (some 4) program = (lines none program).take 4 := hfirst 4
  refine ⟨?_, ?_, ?_, hmore 2 3 (by decide), ?_, (hneg (-4) (by decide)).2 (by decide)⟩
  · rw [htwo, htake, htexts.1]
    rfl
  · rw [hfour, ← htexts.2.2]
    exact (hlast 4 0xAB (by decide) rfl).2 (by rw [htexts.1]; decide)
  · rw [hwhole ["prog.ch8"] hplain, hall, htexts.1]
    rfl
  · rw [hless, (hneg (-1) (by decide)).1]
    exact htexts.2.1

end CommandLine.ListProgram

end Chip8
