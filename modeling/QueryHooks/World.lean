import QueryHooks.Host

/-! What a run sees from outside: files and the host they are on, standard input, the network and the environment. -/

namespace QueryHooks

inductive Response
  | answer (status : Nat) (headers : List (String × String)) (body : String)
  | failure (reason : String)
deriving Repr

structure World where
  disk : Disk
  workdir : Place
  stdin : String
  responses : List (String × Response)
  environment : List (String × String)
  host : Host := {}

namespace World

/-- Fetch an address. One that nobody serves is no host. -/
def fetch (world : World) (url : String) : Response :=
  (world.responses.lookup url).getD (.failure "no such host")

def setting? (world : World) (name : String) : Option String := world.environment.lookup name

end World

end QueryHooks
