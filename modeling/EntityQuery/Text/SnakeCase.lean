import EntityQuery.Text.Case
import EntityQuery.Text.Cluster

/-!
# Snake case

Names of tables and columns are derived from names of types and properties: the words of a name,
in lower case, joined by underscores.  A separator ends a word and is dropped, so that two of them
in a row leave an empty word; a word also ends where the case rises, where digits and letters meet,
and before the last capital of an acronym that goes on in lower case.
-/

namespace EntityQuery.Text

namespace Cluster

def isUpper (cluster : Cluster) : Bool :=
  upperChars cluster != lowerChars cluster && cluster == upperChars cluster

def isLower (cluster : Cluster) : Bool :=
  upperChars cluster != lowerChars cluster && cluster == lowerChars cluster

def isDigit (cluster : Cluster) : Bool :=
  cluster.all Char.isDigit

def isSeparator (cluster : Cluster) : Bool :=
  cluster == ['_'] || cluster == ['-'] || cluster == [' ']

end Cluster

/-- Whether a word ends after `cluster` when `rest` follows. -/
def endsWord (cluster : Cluster) : List Cluster → Bool
  | [] => false
  | next :: rest =>
      (cluster.isLower && (next.isUpper || next.isDigit)) ||
      (cluster.isUpper && next.isDigit) ||
      (cluster.isDigit && (next.isLower || next.isUpper)) ||
      (cluster.isUpper && next.isUpper && rest.head?.any Cluster.isLower)

def splitWords : List Cluster → List (List Cluster)
  | [] => [[]]
  | cluster :: rest =>
      if cluster.isSeparator then [] :: splitWords rest
      else if endsWord cluster rest then [cluster] :: splitWords rest
      else
        match splitWords rest with
        | [] => [[cluster]]
        | word :: words => (cluster :: word) :: words

def words (text : List Char) : List (List Char) :=
  (splitWords (clusters text)).map List.flatten

def snakeCase (text : String) : String :=
  "_".intercalate ((words text.toList).map fun word => String.ofList (lowerChars word))

end EntityQuery.Text
