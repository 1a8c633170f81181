import Fanout.Bytes
import Fanout.Feed.Result

namespace Fanout

inductive Ending where
  | returned (result : FeedResult)
  | panicked
deriving Inhabited

structure Turn where
  writes : List Bytes := []
  ending : Option Ending := none
deriving Inhabited

end Fanout
