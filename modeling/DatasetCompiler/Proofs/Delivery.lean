import DatasetCompiler.Definition
import DatasetCompiler.Proofs.Lexing

/-!
# Reading from a source

A source delivers the bytes of a definition in pieces and may fail.  The pieces do not matter: a
source that delivers the bytes of a text is read like the text.

A source that fails is never read to a value, since behind the value the end of the input is asked
for.  What is reported is the failed read, unless the bytes before it cannot begin a document.  Then
they cannot whatever follows them, so nothing is reported that more bytes could have changed.
-/

namespace DatasetCompiler

namespace Json

/-! ### Documents -/

namespace Builder

/-- The document at the end of a lexed text, from a builder on. -/
def close (b : Builder) (lexed : Lexed) : Except Fault Json :=
  match b.run lexed.tokens with
  | some last => last.finish lexed.stop
  | none => .error .malformed

theorem run_append (b : Builder) (tokens more : List Token) :
    b.run (tokens ++ more) = (b.run tokens).bind fun next => next.run more := by
  induction tokens generalizing b with
  | nil => rfl
  | cons token tokens ih =>
    rw [List.cons_append, run, run]
    cases b.step token with
    | none => rfl
    | some next => exact ih next

theorem close_append (b : Builder) (tokens : List Token) (lexed : Lexed) :
    b.close ⟨tokens ++ lexed.tokens, lexed.stop⟩ =
      match b.run tokens with
      | some next => next.close lexed
      | none => .error .malformed := by
  rw [close, run_append]
  cases b.run tokens <;> rfl

theorem finish_malformed (b : Builder) : b.finish .malformed = .error .malformed := by
  cases b <;> rfl

theorem close_malformed (b : Builder) (tokens : List Token) :
    b.close ⟨tokens, .malformed⟩ = .error .malformed := by
  unfold close
  split
  · exact finish_malformed _
  · rfl

theorem finish_broken (b : Builder) : b.finish .broken = .error .unreadable := by
  cases b <;> rfl

theorem finish_cut_broken {b : Builder} {isString : Bool} (h : b.awaited.mayBe isString = true) :
    b.finish (.cut isString .broken) = .error .unreadable := by
  cases b with
  | done value => cases h
  | _ => simp only [finish, Stop.fault, h, if_true, Ending.fault]

theorem finish_cut {b : Builder} {isString : Bool} (h : b.awaited.mayBe isString = false)
    (ending : Ending) : b.finish (.cut isString ending) = .error .malformed := by
  cases b with
  | done value => rfl
  | _ => simp [finish, Stop.fault, h]

theorem step_scalar {b : Builder} {isString : Bool} (h : b.awaited.mayBe isString = false)
    {token : Token} (htoken : token.IsScalar isString) : b.step token = none := by
  cases b with
  | valueDue above => cases h
  | firstItem above => cases h
  | afterItem above items =>
    cases token with
    | comma => exact htoken.elim
    | closeBracket => exact htoken.elim
    | _ => rfl
  | firstKey above =>
    cases token with
    | closeBrace => exact htoken.elim
    | string key => exact Bool.noConfusion (h.symm.trans htoken)
    | _ => rfl
  | keyDue above members =>
    cases token with
    | string key => exact Bool.noConfusion (h.symm.trans htoken)
    | _ => rfl
  | colonDue above members key =>
    cases token with
    | colon => exact htoken.elim
    | _ => rfl
  | afterMember above members =>
    cases token with
    | comma => exact htoken.elim
    | closeBrace => exact htoken.elim
    | _ => rfl
  | done value => rfl

/-- A scalar that is not awaited makes every text malformed, whether it is finished or not. -/
theorem close_of_resumes {b : Builder} {isString : Bool} (h : b.awaited.mayBe isString = false)
    {ending : Ending} {lexed : Lexed} (hlexed : Lexer.Resumes isString ending lexed) :
    b.close lexed = .error .malformed := by
  cases hlexed with
  | cut => exact finish_cut h ending
  | dead => exact finish_malformed b
  | complete htoken tokens stop =>
    rw [close, run, step_scalar h htoken]

end Builder

theorem conclude_andThen {ending : Ending} {tokens : List Token} {l : Lexer}
    {next : Lexer → Lexer.Output} :
    Lexer.conclude ending (Lexer.Output.andThen (tokens, some l) next) =
      ⟨tokens ++ (Lexer.conclude ending (next l)).tokens,
        (Lexer.conclude ending (next l)).stop⟩ := by
  rcases hnext : next l with ⟨more, _ | last⟩
  · simp [Lexer.Output.andThen, Lexer.conclude, hnext]
  · simp [Lexer.Output.andThen, Lexer.conclude, hnext]

theorem written_of_feed_none {bytes : List UInt8} {tokens : List Token}
    (h : Lexer.between.feed bytes = (tokens, none)) (ending : Ending) (more : List UInt8) :
    written (lex ending (bytes ++ more)) = .error .malformed := by
  rw [lex, Lexer.feed_append, h]
  exact Builder.close_malformed _ tokens

theorem written_of_feed_some {bytes : List UInt8} {tokens : List Token} {l : Lexer}
    (h : Lexer.between.feed bytes = (tokens, some l)) (ending : Ending) (more : List UInt8) :
    written (lex ending (bytes ++ more)) =
      match (Builder.valueDue []).run tokens with
      | some b => b.close (Lexer.conclude ending (l.feed more))
      | none => .error .malformed := by
  rw [lex, Lexer.feed_append, h, conclude_andThen]
  exact Builder.close_append _ tokens _

/-- If reading fails behind some bytes, this is what is reported, or these bytes make every text
malformed that begins with them. -/
theorem written_broken (bytes : List UInt8) :
    written (lex .broken bytes) = .error .unreadable ∨
      ∀ ending more, written (lex ending (bytes ++ more)) = .error .malformed := by
  rcases hfeed : Lexer.between.feed bytes with ⟨tokens, _ | l⟩
  · exact Or.inr (written_of_feed_none hfeed)
  have hmore := written_of_feed_some hfeed
  have hend := hmore .broken []
  rw [List.append_nil] at hend
  cases hrun : (Builder.valueDue []).run tokens with
  | none =>
    simp only [hrun] at hmore
    exact Or.inr hmore
  | some b =>
    simp only [hrun] at hmore hend
    rw [hend]
    rcases Lexer.regular_feed (Or.inl rfl) hfeed with rfl | ⟨isString, hreads⟩
    · exact Or.inl b.finish_broken
    -- inside a scalar it counts whether the document could go on with one of this kind
    by_cases hmay : b.awaited.mayBe isString = true
    · left
      cases hreads <;> exact Builder.finish_cut_broken hmay
    · right
      intro ending more
      rw [hmore]
      rw [Bool.not_eq_true] at hmay
      exact Builder.close_of_resumes hmay ((Lexer.pursues_feed hreads more).resumes ending)

theorem ofLexed_eq_error_iff {lexed : Lexed} {fault : Fault} :
    ofLexed lexed = .error fault ↔ written lexed = .error fault := by
  unfold ofLexed
  cases written lexed <;> simp [Except.map]

/-! ### Sources -/

theorem Source.lex_eq (source : Source) :
    source.lex = Json.lex source.ending source.chunks.flatten := by
  rw [Source.lex, Lexer.feedChunks_eq_feed, Json.lex]

theorem ofSource_broken {source : Source} (h : source.ending = .broken) :
    ofSource source = .error .unreadable ∨
      ∀ other : Source, source.chunks.flatten <+: other.chunks.flatten →
        ofSource other = .error .malformed := by
  simp only [ofSource, Source.lex_eq, ofLexed_eq_error_iff, h]
  rcases written_broken source.chunks.flatten with hbroken | hmalformed
  · exact Or.inl hbroken
  · right
    rintro other ⟨more, hmore⟩
    rw [← hmore]
    exact hmalformed other.ending more

theorem ofSource_eq_ofText {source : Source} {text : String} (hending : source.ending = .closed)
    (hbytes : source.chunks.flatten = bytesOfText text) : ofSource source = ofText text := by
  rw [ofSource, Source.lex_eq, hending, hbytes]
  rfl

theorem Source.flatten_pieces (size : Nat) (bytes : List UInt8) :
    (pieces size bytes).flatten = bytes := by
  induction bytes using pieces.induct size with
  | case1 bytes h => rw [pieces, if_pos h, List.flatten_singleton]
  | case2 bytes h ih => rw [pieces, if_neg h, List.flatten_cons, ih, List.take_append_drop]

end Json

namespace Definition

theorem ofSource_eq_ofText {source : Json.Source} {text : String}
    (hending : source.ending = .closed)
    (hbytes : source.chunks.flatten = Json.bytesOfText text) : ofSource source = ofText text := by
  rw [ofSource, ofText, Json.ofSource_eq_ofText hending hbytes]

theorem ofSource_broken {source : Json.Source} (h : source.ending = .broken) :
    ofSource source = .error (.json .unreadable) ∨
      ∀ other : Json.Source, source.chunks.flatten <+: other.chunks.flatten →
        ofSource other = .error (.json .malformed) := by
  rcases Json.ofSource_broken h with hbroken | hmalformed
  · left
    rw [ofSource, hbroken]
    rfl
  · right
    intro other hother
    rw [ofSource, hmalformed other hother]
    rfl

/-- A source that delivers the bytes of a text is read like the text, and none of its strings fails
to be decoded.  A source that fails after some of its bytes gives a failed read or a malformed text,
and the latter only if every source is malformed that begins with the same bytes.  So wherever the
bytes of a text break off that is not malformed itself, it is the failed read that is reported. -/
theorem ofSource_delivery :
    (∀ (text : String) (source : Json.Source), source.ending = .closed →
      source.chunks.flatten = Json.bytesOfText text → ofSource source = ofText text) ∧
    (∀ (text : String) (content : List UInt8),
      Json.Lexer.between.Closes (Json.bytesOfText text) content →
        ∃ string, Json.textOfBytes? content = some string) ∧
    (∀ (bytes : List UInt8) (count : Nat) (source : Json.Source), source.ending = .broken →
      source.chunks.flatten = bytes.take count →
        ofSource source = .error (.json .unreadable) ∨
          ofSource source = .error (.json .malformed) ∧
            ∀ other : Json.Source, bytes.take count <+: other.chunks.flatten →
              ofSource other = .error (.json .malformed)) ∧
    ∀ (text : String) (count : Nat) (source : Json.Source), source.ending = .broken →
      source.chunks.flatten = (Json.bytesOfText text).take count →
      ofText text ≠ .error (.json .malformed) → ofSource source = .error (.json .unreadable) := by
  refine ⟨fun text source => ofSource_eq_ofText, ?_, ?_, ?_⟩
  · intro text content hcloses
    obtain ⟨string, rfl⟩ := Json.Lexer.isEncoded_of_closes hcloses
    exact ⟨string, Json.textOfBytes?_bytesOfText string⟩
  · intro bytes count source hending hbytes
    rw [← hbytes]
    rcases ofSource_broken hending with hbroken | hmalformed
    · exact Or.inl hbroken
    · exact Or.inr ⟨hmalformed source (List.prefix_refl _), hmalformed⟩
  · intro text count source hending hbytes htext
    rcases ofSource_broken hending with hbroken | hmalformed
    · exact hbroken
    · -- the whole text begins with these bytes too
      let whole : Json.Source := ⟨[Json.bytesOfText text], .closed⟩
      have hflatten : whole.chunks.flatten = Json.bytesOfText text := List.flatten_singleton
      have hwhole : ofSource whole = ofText text := ofSource_eq_ofText rfl hflatten
      have hprefix : source.chunks.flatten <+: whole.chunks.flatten := by
        rw [hbytes, hflatten]
        exact List.take_prefix _ _
      exact (htext (hwhole.symm.trans (hmalformed whole hprefix))).elim

theorem ofSource_delivery_pieces :
    let text := "\x7b\"datasetName\":\"d\",\"é\":0,\"models\":[]\x7d"
    let bytes := Json.bytesOfText text
    ofText text = .ok ⟨"d", []⟩ ∧
      ofSource (Json.Source.ofBytes 1 bytes) = .ok ⟨"d", []⟩ ∧
      ofSource (Json.Source.failing 1 bytes.length bytes) = .error (.json .unreadable) ∧
      (Json.Lexer.between.Closes (Json.bytesOfText "\"é\"") [0xC3, 0xA9] ∧
        ∃ string, Json.textOfBytes? [0xC3, 0xA9] = some string) ∧
      ∀ other : Json.Source, Json.bytesOfText "[," <+: other.chunks.flatten →
        ofSource other = .error (.json .malformed) := by
  intro text bytes
  obtain ⟨hclosed, hstrings, hbroken, hunreadable⟩ := ofSource_delivery
  have htext : ofText text = .ok ⟨"d", []⟩ := rfl
  have hcloses : Json.Lexer.between.Closes (Json.bytesOfText "\"é\"") [0xC3, 0xA9] :=
    ⟨[0x22, 0xC3, 0xA9], 0x22, [], [], .body [0xA9, 0xC3], by decide +kernel, rfl, rfl⟩
  refine ⟨htext, ?_, ?_, ⟨hcloses, hstrings _ _ hcloses⟩, ?_⟩
  · exact (hclosed text _ rfl (Json.Source.flatten_pieces 1 bytes)).trans htext
  · rw [Json.Source.failing, if_pos (Nat.le_refl _)]
    refine hunreadable text bytes.length _ rfl ?_ ?_
    · exact Json.Source.flatten_pieces 1 _
    · rw [htext]
      exact nofun
  · let cut : Json.Source := ⟨[[0x5B], [0x2C]], .broken⟩
    have hcut : ofSource cut = .error (.json .malformed) := rfl
    have hbytes : cut.chunks.flatten = (Json.bytesOfText "[,1").take 2 := by decide +kernel
    rcases hbroken (Json.bytesOfText "[,1") 2 cut rfl hbytes with hread | ⟨-, hmalformed⟩
    · rw [hcut] at hread
      cases hread
    · exact hmalformed

end Definition

end DatasetCompiler
