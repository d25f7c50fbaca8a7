import KeyScript.Store

/-! A store whose answers were prepared. It keeps the commands that it was asked to run. -/
namespace KeyScript.Store

structure Prepared where
  answers : List (Except Fault Answer)
  users : Except Fault (List String)
  keys : Except Fault (List String)
  /-- Commands asked for, newest first. -/
  asked : List (List String)

namespace Prepared

def ofAnswers (answers : List (Except Fault Answer)) : Prepared := ⟨answers, .ok [], .ok [], []⟩

/-- The next answer; when none is left, an acknowledgement. -/
def execute (args : List String) (p : Prepared) : Except Fault Answer × Prepared :=
  match p.answers with
  | [] => (.ok (.value "OK"), { p with asked := args :: p.asked })
  | answer :: rest => (answer, { p with answers := rest, asked := args :: p.asked })

def calls (p : Prepared) : List (List String) := p.asked.reverse

def store : Store Prepared :=
  { execute
    users := fun p => (p.users, p)
    keys := fun count p => (p.keys.map (·.take count), p) }

end Prepared

end KeyScript.Store
