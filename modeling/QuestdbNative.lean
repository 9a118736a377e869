import QuestdbNative.CTypes
import QuestdbNative.ByteOrder
import QuestdbNative.RecordArray
import QuestdbNative.Kqueue.Wait
import QuestdbNative.Kqueue.Budget
import QuestdbNative.Kqueue.Clock
import QuestdbNative.Kqueue.Result
import QuestdbNative.Kqueue.Kernel
import QuestdbNative.Kqueue.Submit
import QuestdbNative.Kqueue.Layout
import QuestdbNative.Kqueue.Arrays
import QuestdbNative.Kqueue.Memory
import QuestdbNative.Net.Socket
import QuestdbNative.Net.Multicast
import QuestdbNative.Net.Address
import QuestdbNative.Net.Options
import QuestdbNative.Files
import QuestdbNative.Os
