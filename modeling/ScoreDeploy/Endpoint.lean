/-!
# Endpoints

An endpoint is a node and the number of the network that it belongs to, known by a name.
-/

namespace ScoreDeploy

/-- Where a node is reached, and the number of its network. -/
structure Endpoint where
  url : String
  network : UInt64
deriving DecidableEq, Repr

namespace Endpoint

/-- The endpoints that are known without any configuration. -/
def builtin : List (String × Endpoint) := [
  ("mainnet", ⟨"https://ctz.solidwallet.io", 0x1⟩),
  ("lisbon", ⟨"https://lisbon.net.solidwallet.io", 0x2⟩),
  ("sejong", ⟨"https://sejong.net.solidwallet.io", 0x53⟩),
  ("berlin", ⟨"https://berlin.net.solidwallet.io", 0x7⟩),
  ("localhost", ⟨"http://localhost:9082", 0x3⟩),
  ("gochain", ⟨"http://localhost:9082", 0x3⟩),
  ("custom", ⟨"https://endpoint.convexus.netlib.re", 0x3⟩)]

/-- Whether the name is that of a local network, on which money has no worth. -/
def isLocal (name : String) : Bool :=
  name == "localhost" || name == "gochain"

end Endpoint

end ScoreDeploy
