import RequestSql.Http.Serve
import RequestSql.Proofs.Registry

/-!
# Services that cannot be told apart

A service reads its registry only by name and through the registered names in their own order. So
the order of registration is never seen, and services whose names find the same dialects answer
alike as far as their engines and their tools are the same.
-/

namespace RequestSql

/-- Every name finds the same in both, and the same engine is in force with the same tools. -/
structure Service.Alike (s t : Service) : Prop where
  dialects : ∀ name, s.registry.get? name = t.registry.get? name
  engine : s.engine = t.engine
  tools : s.tools = t.tools

section Registries

variable {r s : Registry} (h : ∀ name, r.get? name = s.get? name)

include h

theorem Pipeline.compileDescriptor_congr (validate : Bool) (q : Descriptor) (name : Value)
    (parse : Parser) :
    compileDescriptor r validate q name parse = compileDescriptor s validate q name parse := by
  simp only [compileDescriptor, Registry.find_congr h]

theorem Pipeline.compile_congr (validate : Bool) (v name : Value) (parse : Parser) :
    compile r validate v name parse = compile s validate v name parse := by
  simp only [compile, compileDescriptor_congr h]

theorem Http.compileReply_congr (tools : Tools) (block : Option Text.HalfBlock) (engine : Engine)
    (options : Options) (q : RequestSql.Request) :
    compileReply tools block r engine options q = compileReply tools block s engine options q := by
  simp only [compileReply, Pipeline.compileDescriptor_congr h, lookupEnvelope,
    Registry.available_congr h]

end Registries

namespace Service.Alike

variable {s t : Service} (h : s.Alike t)

include h

theorem available : s.registry.available = t.registry.available :=
  Registry.available_congr h.dialects

theorem find (name : Value) : s.registry.find name = t.registry.find name :=
  Registry.find_congr h.dialects name

theorem listing : s.listing = t.listing := by
  simp only [Service.listing, Service.dialect, h.available, h.dialects, h.engine]

theorem compile (r : Http.Request) (bytes : ByteArray) :
    Http.compile s r bytes = Http.compile t r bytes := by
  simp only [Http.compile, h.engine, h.tools, Http.compileReply_congr h.dialects]

theorem serve (r : Http.Request) : Http.serve s r = Http.serve t r := by
  have hanswer (body : ByteArray) (e : Http.Endpoint) :
      Http.answer s r body e = Http.answer t r body e := by
    cases e with
    | compile => exact h.compile r body
    | dialects => simp only [Http.answer, h.listing]
    | health => rfl
  simp only [Http.serve, Http.dispatch, hanswer]

end Service.Alike

end RequestSql
