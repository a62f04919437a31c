import TableLexer.Command.Tokenize
import TableLexer.Proofs.Findings

/-!
# What a command delivers

An outlet with little room takes the first bytes of all that is written to it, however that is
cut into pieces. Main statement: for every room of both outlets the tokenize command leaves just
the bytes of its dump and of its reports that fit, writes no report unless the dump fits, and
names the first thing that went wrong: reading, a keyword, the dump, the reports, malformed
tokens that are denied.
-/

namespace TableLexer

namespace Outlet

/-- The second of two texts is written only if the first one fits. -/
theorem write_append (outlet : Outlet) (first second : Text) :
    outlet.write (first ++ second) =
      match outlet.write first with
      | (behind, true) => behind.write second
      | (behind, false) => (behind, false) := by
  obtain ⟨room, written⟩ := outlet
  cases room with
  | none => simp [write, Text.encode_append]
  | some room =>
    simp only [write, Text.encode_append, List.length_append]
    by_cases hfits : (Text.encode first).length ≤ room
    · rw [decide_eq_true hfits]
      dsimp only
      rw [List.take_append, List.take_of_length_le hfits, List.append_assoc, Nat.sub_sub]
      simp only [Prod.mk.injEq, decide_eq_decide, true_and]
      omega
    · rw [decide_eq_false hfits]
      dsimp only
      rw [List.take_append_of_le_length (by omega), Nat.sub_eq_zero_of_le (by omega),
        Nat.sub_eq_zero_of_le (by omega), decide_eq_false (by omega)]

/-- Pieces are taken as the text that they make up together. -/
theorem writeEach_eq (outlet : Outlet) (pieces : List Text) :
    outlet.writeEach pieces = outlet.write pieces.flatten := by
  induction pieces generalizing outlet with
  | nil =>
    obtain ⟨room, written⟩ := outlet
    cases room <;> simp [writeEach, write, Text.encode]
  | cons piece pieces ih =>
    rw [writeEach, List.flatten_cons, write_append]
    obtain ⟨behind, complete⟩ := outlet.write piece
    cases complete with
    | true => exact ih behind
    | false => rfl

/-- An outlet that takes so many bytes takes the first so many bytes of a text. -/
theorem write_limited (room : Nat) (text : Text) :
    (limited room).write text =
      (⟨some (room - (Text.encode text).length), (Text.encode text).take room⟩,
        decide ((Text.encode text).length ≤ room)) := rfl

end Outlet

namespace Tokenize

/-- The bytes of a dump of tokens, in the format that holds for a request. -/
def dumpBytes (request : TokenizeRequest) (settings : Settings) (tokens : List Token) : Bytes :=
  Text.encode (Dump.write (format request settings) tokens)

/-- The bytes of the reports of all findings, in order. -/
def reportBytes (source : Text) (findings : Collector) : Bytes :=
  Text.encode (findings.recorded.flatMap fun diagnostic => diagnostic.report source)

/-- Why a dump does not fit: a JSON array is complete without the line break behind it. -/
def dumpFailure (format : DumpFormat) (size room : Nat) : Failure :=
  if format = .json ∧ room < size - 1 then .arrayUnwritable else .unwritable

/-- What a command ended with, and the bytes that its outlets took. -/
structure Leaves (outcome : Outcome) (result : Except Failure Nat) (out err : Bytes) : Prop where
  /-- The number of tokens, or what went wrong. -/
  result_eq : outcome.result = result
  /-- The bytes of the dump. -/
  out_eq : outcome.out.written = out
  /-- The bytes of the reports. -/
  err_eq : outcome.err.written = err

/-- An array and the line break behind it are one byte more than the array. -/
theorem length_encode_json (tokens : List Token) :
    (Text.encode (Dump.write .json tokens)).length =
      (Text.encode (Dump.body .json tokens)).length + 1 := by
  rw [Dump.write, Text.encode_append, List.length_append]
  rfl

/-- A dump fails in its body or behind it. -/
theorem writeDump_limited (room : Nat) (format : DumpFormat) (tokens : List Token) :
    writeDump (.limited room) format tokens =
      (⟨some (room - (Text.encode (Dump.write format tokens)).length),
          (Text.encode (Dump.write format tokens)).take room⟩,
        if (Text.encode (Dump.write format tokens)).length ≤ room then .ok ()
        else .error
          (dumpFailure format (Text.encode (Dump.write format tokens)).length room)) := by
  have hjoin := Outlet.write_append (.limited room) (Dump.body format tokens) (Dump.ending format)
  rw [← Dump.write, Outlet.write_limited, Outlet.write_limited] at hjoin
  rw [writeDump, Outlet.writeEach_eq, ← Dump.body, Outlet.write_limited]
  by_cases hbody : (Text.encode (Dump.body format tokens)).length ≤ room
  · rw [decide_eq_true hbody] at hjoin ⊢
    dsimp only at hjoin ⊢
    have hfailure : dumpFailure format (Text.encode (Dump.write format tokens)).length room =
        .unwritable := by
      refine if_neg ?_
      rintro ⟨rfl, hshort⟩
      rw [length_encode_json] at hshort
      omega
    rw [if_pos rfl, ← hjoin, hfailure]
    simp only [decide_eq_true_eq]
  · rw [decide_eq_false hbody] at hjoin ⊢
    dsimp only at hjoin ⊢
    obtain ⟨hout, hcomplete⟩ := Prod.mk.inj hjoin
    have hfailure : dumpFailure format (Text.encode (Dump.write format tokens)).length room =
        if format = .json then .arrayUnwritable else .unwritable := by
      rw [dumpFailure]
      refine if_congr ⟨And.left, ?_⟩ rfl rfl
      rintro rfl
      rw [length_encode_json]
      exact ⟨rfl, by omega⟩
    rw [if_neg Bool.false_ne_true, if_neg (of_decide_eq_false hcomplete), ← hout, hfailure]

/-- An empty array has two bytes, the line break behind it is the third. -/
example : (writeDump (.limited 1) .json []).2 = .error .arrayUnwritable ∧
    (writeDump (.limited 2) .json []).2 = .error .unwritable ∧
    (writeDump (.limited 3) .json []).2 = .ok () := ⟨rfl, rfl, rfl⟩

/-- What is left of tokens and findings when each outlet takes only so many bytes. -/
structure Delivered (request : TokenizeRequest) (settings : Settings) (source : Text)
    (tokens : List Token) (findings : Collector) (room roomErr : Nat) (outcome : Outcome) :
    Prop where
  /-- A dump that does not fit is cut, and nothing is reported. -/
  dump_cut : room < (dumpBytes request settings tokens).length →
    Leaves outcome
      (.error (dumpFailure (format request settings)
        (dumpBytes request settings tokens).length room))
      ((dumpBytes request settings tokens).take room) []
  /-- Reports that do not fit are cut behind the whole dump, whether errors are denied or not. -/
  reports_cut : (dumpBytes request settings tokens).length ≤ room →
    roomErr < (reportBytes source findings).length →
      Leaves outcome (.error .unwritable) (dumpBytes request settings tokens)
        ((reportBytes source findings).take roomErr)
  /-- Where everything fits, malformed tokens count against it if they are denied. -/
  complete : (dumpBytes request settings tokens).length ≤ room →
    (reportBytes source findings).length ≤ roomErr →
      Leaves outcome
        (if 0 < tokens.countP Token.isMalformed ∧ deniesErrors request settings = true then
          .error (.lexicalErrors (tokens.countP Token.isMalformed))
        else .ok tokens.length)
        (dumpBytes request settings tokens) (reportBytes source findings)

/-- The log is no part of what a command leaves. -/
theorem Leaves.withLog {outcome : Outcome} {result : Except Failure Nat} {out err : Bytes}
    (h : Leaves outcome result out err) (log : List Text) :
    Leaves { outcome with log := log } result out err :=
  ⟨h.result_eq, h.out_eq, h.err_eq⟩

/-- The log is no part of what is delivered. -/
theorem Delivered.withLog {request : TokenizeRequest} {settings : Settings} {source : Text}
    {tokens : List Token} {findings : Collector} {room roomErr : Nat} {outcome : Outcome}
    (h : Delivered request settings source tokens findings room roomErr outcome)
    (log : List Text) :
    Delivered request settings source tokens findings room roomErr
      { outcome with log := log } :=
  ⟨fun hdump => (h.dump_cut hdump).withLog log,
    fun hdump hreport => (h.reports_cut hdump hreport).withLog log,
    fun hdump hreport => (h.complete hdump hreport).withLog log⟩

/-- Tokens and findings are delivered if there are as many errors as malformed tokens. -/
theorem delivered_publish (request : TokenizeRequest) (settings : Settings) (source : Text)
    {tokens : List Token} {findings : Collector}
    (hcount : findings.errorCount = tokens.countP Token.isMalformed) (room roomErr : Nat) :
    Delivered request settings source tokens findings room roomErr
      (publish request settings source tokens findings (.limited room) (.limited roomErr)) := by
  have hreports : (findings.recorded.map fun diagnostic => diagnostic.report source).flatten =
      findings.recorded.flatMap fun diagnostic => diagnostic.report source := rfl
  rw [publish]
  dsimp only
  rw [writeDump_limited, Outlet.writeEach_eq, hreports, Outlet.write_limited, hcount,
    ← dumpBytes, ← reportBytes]
  refine ⟨fun hdump => ?_, fun hdump hreport => ?_, fun hdump hreport => ?_⟩
  · rw [if_neg (Nat.not_le_of_lt hdump)]
    exact ⟨rfl, rfl, rfl⟩
  · rw [if_pos hdump, decide_eq_false (Nat.not_le_of_lt hreport)]
    exact ⟨rfl, List.take_of_length_le hdump, rfl⟩
  · rw [if_pos hdump, decide_eq_true hreport]
    exact ⟨rfl, List.take_of_length_le hdump, List.take_of_length_le hreport⟩

/-- Whether errors are denied has no influence on the outlets. -/
theorem publish_outlets (request : TokenizeRequest) (settings : Settings) (deny denied : Bool)
    (source : Text) (tokens : List Token) (findings : Collector) (out err : Outlet) :
    (publish { request with denyErrors := deny } { settings with denyErrors := denied } source
        tokens findings out err).out =
      (publish request settings source tokens findings out err).out ∧
    (publish { request with denyErrors := deny } { settings with denyErrors := denied } source
        tokens findings out err).err =
      (publish request settings source tokens findings out err).err := by
  have hf : format { request with denyErrors := deny } { settings with denyErrors := denied } =
      format request settings := rfl
  rw [publish, publish, hf]
  obtain ⟨out, failure | _⟩ := writeDump out (format request settings) tokens
  · exact ⟨rfl, rfl⟩
  · dsimp only
    cases (err.writeEach (findings.recorded.map fun diagnostic => diagnostic.report source)).2 <;>
      exact ⟨rfl, rfl⟩

/-- A request carried out with outlets that take so many bytes each. -/
abbrev runWithin (request : TokenizeRequest) (settings : Settings) (input : Bytes)
    (files : Files) (room roomErr : Nat) : Outcome :=
  run request settings input files (.limited room) (.limited roomErr)

end Tokenize

/-- Settings whose keywords are identifiers describe a lexicon. -/
theorem Settings.lexicon_eq {settings : Settings}
    (h : ∀ word ∈ settings.keywords, isIdentifier word = true) :
    settings.lexicon = .ok (Lexicon.standard.withKeywords settings.keywords) := by
  have hnone : (settings.keywords.find? fun word => !isIdentifier word) = none := by
    rw [List.find?_eq_none]
    intro word hm
    rw [h word hm]
    decide
  rw [lexicon, hnone]

/-- A scan finds as many errors as it yields malformed tokens. -/
theorem errorCount_of_tokenize {lexicon : Lexicon} {source : Text} {tokens : List Token}
    {findings : Collector} (h : tokenize lexicon source .lenient = .ok (tokens, findings)) :
    findings.errorCount = tokens.countP Token.isMalformed := by
  have hsame := tokenize_eq_map lexicon source [] []
  rw [← Collector.lenient, h] at hsame
  obtain rfl : findings = ⟨false, [] ++ tokens.flatMap Token.findings⟩ :=
    (Prod.mk.inj (Except.ok.inj hsame)).2
  rw [errorCount_findings]
  exact Nat.zero_add _

namespace Tokenize

variable {request : TokenizeRequest} {settings : Settings} {input : Bytes} {files : Files}
  {source : Text}

/-- Nothing happens to the outlets if the source cannot be read. -/
theorem run_of_unread {failure : Failure} (hs : sourceText request input files = .error failure)
    (out err : Outlet) :
    run request settings input files out err =
      ⟨.error failure, out, err, readingEntry request⟩ := by
  rw [run]
  dsimp only
  rw [hs]

/-- Keywords are looked at when the source has been read, and before it is scanned. -/
theorem run_of_notAnIdentifier {word : Text} (hs : sourceText request input files = .ok source)
    (hw : settings.keywords.find? (fun word => !isIdentifier word) = some word)
    (out err : Outlet) :
    run request settings input files out err =
      ⟨.error (.notAnIdentifier word), out, err, readingEntry request⟩ := by
  rw [run, Settings.lexicon]
  dsimp only
  rw [hs, hw]

/-- A fault of the scan stops a command before anything is dumped. -/
theorem run_of_fault {fault : Fault} (hs : sourceText request input files = .ok source)
    (hw : ∀ word ∈ settings.keywords, isIdentifier word = true)
    (h : tokenize (Lexicon.standard.withKeywords settings.keywords) source .lenient =
      .error fault) (out err : Outlet) :
    run request settings input files out err =
      ⟨.error (.stopped fault), out, err, readingEntry request⟩ := by
  rw [run, settings.lexicon_eq hw]
  dsimp only
  rw [hs]
  dsimp only
  rw [h]

/-- What a scan found is published. -/
theorem run_of_tokenize {tokens : List Token} {findings : Collector}
    (hs : sourceText request input files = .ok source)
    (hw : ∀ word ∈ settings.keywords, isIdentifier word = true)
    (h : tokenize (Lexicon.standard.withKeywords settings.keywords) source .lenient =
      .ok (tokens, findings)) (out err : Outlet) :
    run request settings input files out err =
      { publish request settings source tokens findings out err with
        log := readingEntry request ++
          (publish request settings source tokens findings out err).log } := by
  rw [run, settings.lexicon_eq hw]
  dsimp only
  rw [hs]
  dsimp only
  rw [h]

/-- Neither reading nor scanning asks whether errors are denied. -/
theorem run_outlets (request : TokenizeRequest) (settings : Settings) (input : Bytes)
    (files : Files) (deny denied : Bool) (out err : Outlet) :
    (run { request with denyErrors := deny } { settings with denyErrors := denied } input files
        out err).out = (run request settings input files out err).out ∧
      (run { request with denyErrors := deny } { settings with denyErrors := denied } input files
        out err).err = (run request settings input files out err).err := by
  have hsource : sourceText { request with denyErrors := deny } input files =
      sourceText request input files := rfl
  have hlexicon : ({ settings with denyErrors := denied } : Settings).lexicon =
      settings.lexicon := rfl
  rw [run, run, hsource, hlexicon]
  dsimp only
  cases sourceText request input files with
  | error failure => exact ⟨rfl, rfl⟩
  | ok source =>
    cases settings.lexicon with
    | error failure => exact ⟨rfl, rfl⟩
    | ok lexicon =>
      dsimp only
      cases tokenize lexicon source .lenient with
      | error fault => exact ⟨rfl, rfl⟩
      | ok result => exact publish_outlets request settings deny denied source _ _ out err

end Tokenize

open Tokenize

/-- A request whose source cannot be read fails with the reason, and one with a keyword that is no
identifier with the first such keyword; neither writes anything. Otherwise the source is scanned,
which stops at a fault only from `countLimit` characters on, and what the scan found is delivered.
Whether errors are denied has no influence on the outlets, whatever room they have. -/
theorem run_delivers (request : TokenizeRequest) (settings : Settings) (input : Bytes)
    (files : Files) (room roomErr : Nat) :
    (∀ failure, sourceText request input files = .error failure →
      Leaves (runWithin request settings input files room roomErr) (.error failure) [] []) ∧
    (∀ source word, sourceText request input files = .ok source →
      settings.keywords.find? (fun word => !isIdentifier word) = some word →
        Leaves (runWithin request settings input files room roomErr)
          (.error (.notAnIdentifier word)) [] []) ∧
    (∀ source, sourceText request input files = .ok source →
      (∀ word ∈ settings.keywords, isIdentifier word = true) →
        (∀ fault, tokenize (Lexicon.standard.withKeywords settings.keywords) source .lenient =
            .error fault → countLimit ≤ source.length ∧
          Leaves (runWithin request settings input files room roomErr)
            (.error (.stopped fault)) [] []) ∧
        ∀ tokens findings,
          tokenize (Lexicon.standard.withKeywords settings.keywords) source .lenient =
              .ok (tokens, findings) →
            Delivered request settings source tokens findings room roomErr
              (runWithin request settings input files room roomErr)) ∧
    ∀ deny denied out err,
      (run { request with denyErrors := deny } { settings with denyErrors := denied } input files
          out err).out = (run request settings input files out err).out ∧
        (run { request with denyErrors := deny } { settings with denyErrors := denied } input files
          out err).err = (run request settings input files out err).err := by
  refine ⟨fun failure hs => ?_, fun source word hs hw => ?_, fun source hs hw => ⟨?_, ?_⟩, ?_⟩
  · rw [runWithin, run_of_unread hs]
    exact ⟨rfl, rfl, rfl⟩
  · rw [runWithin, run_of_notAnIdentifier hs hw]
    exact ⟨rfl, rfl, rfl⟩
  · intro fault h
    rw [runWithin, run_of_fault hs hw h]
    exact ⟨countLimit_le_of_fault h, rfl, rfl, rfl⟩
  · intro tokens findings h
    have hcount := errorCount_of_tokenize h
    have hd := delivered_publish request settings source hcount room roomErr
    rw [runWithin, run_of_tokenize hs hw h]
    exact hd.withLog _
  · exact run_outlets request settings input files

/-- Input that is no text, with a keyword that is none; the keyword alone; a line with a malformed
token, which is denied, where the dump just fits and the reports are cut or not; and a file of two
lines, as an array that is cut and as lines that fit. -/
theorem run_delivers_cut :
    sourceText {} [255] (fun _ => .error .notFound) = .error (.unreadable .notText) ∧
      Leaves (runWithin {} { keywords := ["9".toList] } [255] (fun _ => .error .notFound) 9 9)
        (.error (.unreadable .notText)) [] [] ∧
      sourceText {} [] (fun _ => .error .notFound) = .ok [] ∧
      Leaves (runWithin {} { keywords := ["9".toList] } [] (fun _ => .error .notFound) 9 9)
        (.error (.notAnIdentifier "9".toList)) [] [] ∧
      sourceText { denyErrors := true } (Text.encode "x @\n?".toList)
        (fun _ => .error .notFound) = .ok "x @".toList ∧
      Leaves (runWithin { denyErrors := true } {} (Text.encode "x @\n?".toList)
          (fun _ => .error .notFound) 20 10)
        (.error .unwritable) (Text.encode "<ID, x> <ERROR, @> \n".toList)
        (Text.encode "error[E100".toList) ∧
      Leaves (runWithin { denyErrors := true } {} (Text.encode "x @\n?".toList)
          (fun _ => .error .notFound) 20 200)
        (.error (.lexicalErrors 1)) (Text.encode "<ID, x> <ERROR, @> \n".toList)
        (reportBytes "x @".toList ⟨false, Token.findings
          ⟨.malformed .unexpectedCharacter, "@".toList, ⟨2, 3, 1, 3⟩⟩⟩) ∧
      sourceText { file := some "f".toList, format := some .json } []
        (fun _ => .ok (Text.encode "x\n@".toList)) = .ok "x\n@".toList ∧
      Leaves (runWithin { file := some "f".toList, format := some .json } {} []
          (fun _ => .ok (Text.encode "x\n@".toList)) 16 200)
        (.error .arrayUnwritable) (Text.encode "[\n  \x7b\n    \"kind\"".toList) [] ∧
      sourceText { file := some "f".toList, format := some .lines } []
        (fun _ => .ok (Text.encode "x\n@".toList)) = .ok "x\n@".toList ∧
      Leaves (runWithin { file := some "f".toList, format := some .lines } {} []
          (fun _ => .ok (Text.encode "x\n@".toList)) 200 200)
        (.ok 2) (Text.encode "1:1\t<ID, x>\n2:1\t<ERROR, @>\n".toList)
        (reportBytes "x\n@".toList ⟨false, Token.findings
          ⟨.malformed .unexpectedCharacter, "@".toList, ⟨2, 3, 2, 1⟩⟩⟩) := by
  have hbytes : sourceText {} [255] (fun _ => .error .notFound) =
      .error (.unreadable .notText) := rfl
  have hnothing : sourceText {} [] (fun _ => .error .notFound) = .ok [] := rfl
  have hline : sourceText { denyErrors := true } (Text.encode "x @\n?".toList)
      (fun _ => .error .notFound) = .ok "x @".toList := rfl
  have hscan : tokenize (Lexicon.standard.withKeywords []) "x @".toList .lenient =
      .ok ([⟨.identifier, "x".toList, ⟨0, 1, 1, 1⟩⟩,
        ⟨.malformed .unexpectedCharacter, "@".toList, ⟨2, 3, 1, 3⟩⟩],
        ⟨false, Token.findings
          ⟨.malformed .unexpectedCharacter, "@".toList, ⟨2, 3, 1, 3⟩⟩⟩) := by
    decide +kernel
  have hjson : sourceText { file := some "f".toList, format := some .json } []
      (fun _ => .ok (Text.encode "x\n@".toList)) = .ok "x\n@".toList := rfl
  have hlines : sourceText { file := some "f".toList, format := some .lines } []
      (fun _ => .ok (Text.encode "x\n@".toList)) = .ok "x\n@".toList := rfl
  have hfile : tokenize (Lexicon.standard.withKeywords []) "x\n@".toList .lenient =
      .ok ([⟨.identifier, "x".toList, ⟨0, 1, 1, 1⟩⟩,
        ⟨.malformed .unexpectedCharacter, "@".toList, ⟨2, 3, 2, 1⟩⟩],
        ⟨false, Token.findings
          ⟨.malformed .unexpectedCharacter, "@".toList, ⟨2, 3, 2, 1⟩⟩⟩) := by
    decide +kernel
  have hplaces : dumpBytes { file := some "f".toList, format := some .lines } {}
      [⟨.identifier, "x".toList, ⟨0, 1, 1, 1⟩⟩,
        ⟨.malformed .unexpectedCharacter, "@".toList, ⟨2, 3, 2, 1⟩⟩] =
      Text.encode "1:1\t<ID, x>\n2:1\t<ERROR, @>\n".toList := by
    decide +kernel
  have hbegin : (dumpBytes { file := some "f".toList, format := some .json } {}
      [⟨.identifier, "x".toList, ⟨0, 1, 1, 1⟩⟩,
        ⟨.malformed .unexpectedCharacter, "@".toList, ⟨2, 3, 2, 1⟩⟩]).take 16 =
      Text.encode "[\n  \x7b\n    \"kind\"".toList := by
    decide +kernel
  have hread := (run_delivers {} { keywords := ["9".toList] } [255]
    (fun _ => .error .notFound) 9 9).1 _ hbytes
  have hkeyword := (run_delivers {} { keywords := ["9".toList] } []
    (fun _ => .error .notFound) 9 9).2.1 _ "9".toList hnothing (by decide)
  have hcut := ((run_delivers { denyErrors := true } {} (Text.encode "x @\n?".toList)
    (fun _ => .error .notFound) 20 10).2.2.1 _ hline (by simp)).2 _ _ hscan
  have hwhole := ((run_delivers { denyErrors := true } {} (Text.encode "x @\n?".toList)
    (fun _ => .error .notFound) 20 200).2.2.1 _ hline (by simp)).2 _ _ hscan
  have harray := ((run_delivers { file := some "f".toList, format := some .json } {} []
    (fun _ => .ok (Text.encode "x\n@".toList)) 16 200).2.2.1 _ hjson (by simp)).2 _ _ hfile
  have hdumped := ((run_delivers { file := some "f".toList, format := some .lines } {} []
    (fun _ => .ok (Text.encode "x\n@".toList)) 200 200).2.2.1 _ hlines (by simp)).2 _ _ hfile
  have hshort := harray.dump_cut (by decide +kernel)
  rw [hbegin, dumpFailure, if_pos ⟨rfl, by decide +kernel⟩] at hshort
  have hfits := hdumped.complete (by decide +kernel) (by decide +kernel)
  rw [hplaces] at hfits
  exact ⟨hbytes, hread, hnothing, hkeyword, hline,
    hcut.reports_cut (by decide +kernel) (by decide +kernel),
    hwhole.complete (by decide +kernel) (by decide +kernel),
    hjson, hshort, hlines, hfits⟩

end TableLexer
